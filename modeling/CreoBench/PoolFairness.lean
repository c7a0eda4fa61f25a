import CreoBench.DropReasons

/-!
# Who gets a virtual user

The pool is work conserving: as long as a transaction waits for a virtual user, as many
others are being served as there are virtual users.  It is fair as well: a permit that is
handed over goes to nobody who began to wait later than somebody who still waits.
-/

namespace CreoBench

namespace Pool

/-- A permit is taken and not given back. -/
def Call.isServed : Call → Bool
  | .assigned | .permitted | .holding _ | .releasing _ | .released => true
  | .idle | .acquiring | .panicked => false

theorem Call.isServed_eq (call : Call) :
    (if call.isServed then 1 else 0) =
      call.takenPermits + call.pushedUsers + call.user.toList.length := by
  cases call <;> rfl

namespace Shared

variable {virtualUserCount : UInt32} {state : Shared}

/-- The virtual users that callers have. -/
def heldUsers (state : Shared) : List VirtualUserId := state.callers.flatMap (·.user.toList)

theorem countP_isServed (state : Shared) :
    state.callers.countP (·.isServed) =
      state.takenPermits + state.pushedUsers + state.heldUsers.length := by
  rcases state with ⟨pool, callers⟩
  induction callers with
  | nil => rfl
  | cons call callers ih =>
      have first := call.isServed_eq
      simp only [takenPermits, pushedUsers, heldUsers, List.countP_cons, List.map_cons,
        List.sum_cons, List.flatMap_cons, List.length_append] at ih ⊢
      omega

theorem count_heldUsers (state : Shared) (id : VirtualUserId) :
    state.heldUsers.count id = (state.callers.map (Call.holds id)).sum := by
  rw [heldUsers, List.count_flatMap]
  congr 2
  funext call
  simp only [Function.comp_apply, Call.holds]
  cases call.user with
  | none => rfl
  | some user => simp [List.count_singleton]

/-- Every virtual user is free or held once. -/
theorem Conserved.users_perm (conserved : state.Conserved virtualUserCount) :
    (state.pool.users ++ state.heldUsers).Perm (userIds virtualUserCount) := by
  rw [List.perm_iff_count]
  intro id
  rw [List.count_append, count_heldUsers, count_userIds]
  exact conserved.placed id

theorem Conserved.served (conserved : state.Conserved virtualUserCount) :
    state.pool.available + state.callers.countP (·.isServed) = virtualUserCount.toNat := by
  have users := conserved.users_perm.length_eq
  have balanced := conserved.balanced
  rw [List.length_append, userIds, List.length_map, List.length_range] at users
  rw [countP_isServed]
  omega

end Shared

end Pool

namespace Dispatch

variable {World Url Jar : Type}

/-- A task that has a virtual user or is about to get one. -/
def Stage.isServed (stage : Stage World Url Jar) : Bool := stage.call.isServed

namespace System

variable {system next : System World Url Jar} {lua : Lua World} {web : WebLibrary Url Jar}
variable {loadgeneratorId : LoadGeneratorId} {virtualUserCount : UInt32}

/-- The permits that nobody has claimed and the tasks that are being served make up all
virtual users, and nobody waits while there is an unclaimed permit. -/
theorem work_conserving
    (reachable : (machine lua web loadgeneratorId virtualUserCount).Reachable system) :
    system.pool.available + system.tasks.countP (·.stage.isServed) = virtualUserCount.toNat ∧
      ∀ task ∈ system.tasks, task.stage = .queued →
        system.tasks.countP (·.stage.isServed) = virtualUserCount.toNat := by
  have pooled := pooled_of_reachable reachable
  have served : system.pool.available + system.tasks.countP (·.stage.isServed) =
      virtualUserCount.toNat := by
    have counted := (Pool.Shared.users_conserved pooled.reachable).served
    rw [shared, List.countP_map] at counted
    exact counted
  refine ⟨served, fun task member queued => ?_⟩
  rcases List.getElem?_of_mem member with ⟨index, found⟩
  have noneLeft : ¬ 0 < system.pool.available := fun unclaimed =>
    not_queued pooled unclaimed found queued
  omega

/-- One transaction waits for the only user, who is with another one. -/
theorem work_conserving_oneWaits :
    ∃ system : System Unit String Unit, (∃ task ∈ system.tasks, task.stage = .queued) ∧
      system.pool.available + system.tasks.countP (·.stage.isServed) = 1 ∧
        ∀ task ∈ system.tasks, task.stage = .queued →
          system.tasks.countP (·.stage.isServed) = 1 := by
  have ⟨system, reachable, checked⟩ := OneUser.machine.exists_reachable_of_exec OneUser.initial
    [OneUser.dispatch 0, OneUser.dispatch 0, .task 0 .checkDeadline, .task 0 .tryAcquire,
      .task 1 .checkDeadline, .task 1 .tryAcquire, .task 1 .acquire,
      .task 0 (.takeRandomUser 0)]
    (fun system => system.tasks.any fun task => task.stage.call = .acquiring)
    (by decide)
  rcases List.any_eq_true.mp checked with ⟨task, member, acquiring⟩
  have queued := stage_of_acquiring (of_decide_eq_true acquiring)
  exact ⟨system, ⟨task, member, queued⟩, work_conserving reachable⟩

/-! ## First come, first served -/

section

variable {index position : Nat} {task task' before after : Task World Url Jar} {event : Event}

/-- What a step at the pool does to the queue. -/
inductive QueueMove (system next : System World Url Jar) (index : Nat)
    (task : Task World Url Jar) : Prop
  | rest {task' : Task World Url Jar} :
      next.waiters.Sublist system.waiters → next.tasks = system.tasks.set index task' →
        (task.stage = .queued → task'.stage ≠ .assigned) → QueueMove system next index task
  | join {task' : Task World Url Jar} :
      task.stage = .tried → next.waiters = system.waiters ++ [index] →
        next.tasks = system.tasks.set index task' → QueueMove system next index task
  | serve {first : Nat} {task' : Task World Url Jar} :
      task.stage ≠ .queued → system.waiters = first :: next.waiters →
        next.tasks = (system.tasks.set index task').modify first (·.hand system.now) →
          QueueMove system next index task

theorem QueueMove.of_addPermits (running : task.stage ≠ .queued) :
    QueueMove system (system.put index task').addPermits index task := by
  unfold addPermits
  cases waiting : system.waiters with
  | nil =>
      have noWaiters : (system.put index task').waiters = [] := waiting
      rw [noWaiters]
      exact .rest (List.nil_sublist _) rfl fun queued => absurd queued running
  | cons first waiters =>
      have someWaiter : (system.put index task').waiters = first :: waiters := waiting
      rw [someWaiter]
      exact .serve running waiting rfl

theorem queueMove_of_poolStep {event : TaskEvent}
    (stepped : system.poolStep index task task.stage event = some next) :
    QueueMove system next index task := by
  revert stepped
  generalize stageEq : task.stage = stage
  fun_cases System.poolStep system index task stage event
  all_goals intro stepped
  all_goals cases stepped
  case case4 => exact .join stageEq rfl rfl
  case case6 => exact .rest List.erase_sublist rfl fun _ => by simp [Task.enter]
  case case8 | case13 | case14 => exact .of_addPermits (by simp [stageEq])
  case case11 waited draw user pool taken =>
    exact .rest (List.Sublist.refl _) rfl fun queued => by simp [stageEq] at queued
  all_goals exact .rest (List.Sublist.refl _) rfl fun queued => by simp [stageEq] at queued

theorem not_queued_of_ownStep {now : Instant} {event : TaskEvent}
    (stepped : ownStep lua web now task task.stage event = some task') :
    task.stage ≠ .queued := by
  intro queued
  rw [queued] at stepped
  cases event <;> cases stepped

theorem not_queued_after_ownStep {now : Instant} {stage : Stage World Url Jar} {event : TaskEvent}
    (stepped : ownStep lua web now task stage event = some task') : task'.stage ≠ .queued := by
  revert stepped
  fun_cases ownStep lua web now task stage event
  all_goals intro stepped
  all_goals cases stepped
  all_goals
    intro queued
    cases queued

theorem waiters_of_step (stepped : system.step lua web loadgeneratorId event = some next) :
    next.waiters.Sublist system.waiters ∨
      ∃ index task, system.tasks[index]? = some task ∧ task.stage = .tried ∧
        next.waiters = system.waiters ++ [index] := by
  cases event with
  | tick elapsed =>
      cases stepped
      exact .inl (List.Sublist.refl _)
  | dispatch startTime targetTime =>
      simp only [System.step, Option.ite_none_right_eq_some] at stepped
      rcases stepped with ⟨-, made⟩
      cases made
      exact .inl (List.Sublist.refl _)
  | task index event =>
      rcases Option.bind_eq_some_iff.mp stepped with ⟨task, found, moved⟩
      cases own : ownStep lua web system.now task task.stage event with
      | some task' =>
          rw [own] at moved
          cases moved
          exact .inl (List.Sublist.refl _)
      | none =>
          rw [own] at moved
          cases queueMove_of_poolStep moved with
          | rest sublist tasks calm => exact .inl sublist
          | join tried joined tasks => exact .inr ⟨index, task, found, tried, joined⟩
          | serve running waiting tasks =>
              rw [waiting]
              exact .inl (List.sublist_cons_self _ _)

theorem getElem?_of_set {tasks : List (Task World Url Jar)}
    (found : (tasks.set index task')[position]? = some after) :
    index = position ∧ after = task' ∨ tasks[position]? = some after := by
  rw [List.getElem?_set] at found
  split_ifs at found with same bound
  · cases found
    exact .inl ⟨same, rfl⟩
  · exact .inr found

/-- A permit is handed to the first task in the queue. -/
theorem first_of_handed (stepped : system.step lua web loadgeneratorId event = some next)
    (found : system.tasks[position]? = some before) (queued : before.stage = .queued)
    (found' : next.tasks[position]? = some after) (assigned : after.stage = .assigned) :
    system.waiters.head? = some position := by
  have changed : system.tasks[position]? ≠ some after := by
    intro same
    cases found.symm.trans same
    rw [queued] at assigned
    cases assigned
  cases event with
  | tick elapsed =>
      cases stepped
      exact absurd found' changed
  | dispatch startTime targetTime =>
      simp only [System.step, Option.ite_none_right_eq_some] at stepped
      rcases stepped with ⟨-, made⟩
      cases made
      rw [List.getElem?_append_left (List.getElem?_eq_some_iff.mp found).1] at found'
      exact absurd found' changed
  | task index event =>
      rcases Option.bind_eq_some_iff.mp stepped with ⟨task, isTask, moved⟩
      cases own : ownStep lua web system.now task task.stage event with
      | some task' =>
          rw [own] at moved
          cases moved
          rcases getElem?_of_set found' with ⟨rfl, -⟩ | same
          · cases isTask.symm.trans found
            exact absurd queued (not_queued_of_ownStep own)
          · exact absurd same changed
      | none =>
          rw [own] at moved
          cases queueMove_of_poolStep moved with
          | rest sublist tasks calm =>
              rw [tasks] at found'
              rcases getElem?_of_set found' with ⟨rfl, rfl⟩ | same
              · cases isTask.symm.trans found
                exact absurd assigned (calm queued)
              · exact absurd same changed
          | join tried joined tasks =>
              rw [tasks] at found'
              rcases getElem?_of_set found' with ⟨rfl, -⟩ | same
              · cases isTask.symm.trans found
                rw [tried] at queued
                cases queued
              · exact absurd same changed
          | @serve first task' running waiting tasks =>
              by_cases isFirst : first = position
              · rw [waiting, isFirst]
                rfl
              · rw [tasks, List.getElem?_modify_ne _ _ isFirst] at found'
                rcases getElem?_of_set found' with ⟨rfl, -⟩ | same
                · cases isTask.symm.trans found
                  exact absurd queued running
                · exact absurd same changed

/-- The first task polled `acquire` no later than the second one. -/
def PolledBefore (tasks : List (Task World Url Jar)) (first second : Nat) : Prop :=
  ∀ (one other : Task World Url Jar) (polled later : Instant),
    tasks[first]? = some one → tasks[second]? = some other →
      one.trace.polled = some polled → other.trace.polled = some later → polled ≤ later

@[simp]
theorem observe_waiters (before after : System World Url Jar) :
    (before.observe after).waiters = after.waiters := by
  unfold observe
  split_ifs <;> rfl

/-- The queue is in the order in which `acquire` was polled, and whoever was handed a permit
had polled it before those who wait, or was handed the permit before they did. -/
structure Fair (system : System World Url Jar) : Prop where
  queue : system.waiters.Pairwise (PolledBefore system.tasks)
  served : ∀ (first second : Nat) (waiter other : Task World Url Jar)
    (polled polled' time : Instant), system.tasks[first]? = some waiter →
      waiter.stage = .queued → waiter.trace.polled = some polled →
        system.tasks[second]? = some other → other.trace.polled = some polled' →
          time ∈ other.trace.handed → time ≤ polled ∨ polled' ≤ polled

theorem trace_ownStep {now : Instant} {stage : Stage World Url Jar} {event : TaskEvent}
    (stepped : ownStep lua web now task stage event = some task') :
    task'.trace.polled = task.trace.polled ∧ task'.trace.handed = task.trace.handed := by
  revert stepped
  fun_cases ownStep lua web now task stage event
  all_goals intro stepped
  all_goals cases stepped
  all_goals exact ⟨rfl, rfl⟩

theorem trace_poolMove (move : PoolMove system task task') :
    task.stage = .tried ∨
      task'.trace.polled = task.trace.polled ∧ task'.trace.handed = task.trace.handed := by
  cases move with
  | claim tried | wait tried => exact .inl tried
  | _ => exact .inr ⟨rfl, rfl⟩

/-- Permits were handed over in the past. -/
theorem handed_le_now
    (reachable : (machine lua web loadgeneratorId virtualUserCount).Reachable system)
    (found : system.tasks[index]? = some task) :
    ∀ time ∈ task.trace.handed, time ≤ system.now := by
  refine forall_tasks_of_reachableBy
    (fun now task => ∀ time ∈ task.trace.handed, time ≤ now) ?_ ?_ ?_ ?_ ?_ reachable found
  · rintro now startTime targetTime started time ⟨⟩
  · exact fun now later task past le time member => (past time member).trans le
  · intro system index event task task' _ _ past own time member
    rw [(trace_ownStep own).2] at member
    exact past time member
  · intro system task task' past move time member
    cases move with
    | claim tried unclaimed =>
        rcases List.mem_append.mp member with old | new
        · exact past time old
        · exact (List.mem_singleton.mp new).le
    | _ => exact past time member
  · intro now task past queued time member
    rcases List.mem_append.mp member with old | new
    · exact past time old
    · exact (List.mem_singleton.mp new).le

/-- A task waits already, or has just polled `acquire`. -/
theorem queued_of_step (pooled : system.Pooled virtualUserCount)
    (stepped : system.step lua web loadgeneratorId event = some next)
    (found : next.tasks[index]? = some task) (queued : task.stage = .queued) :
    system.tasks[index]? = some task ∨
      ∃ before, system.tasks[index]? = some before ∧ before.stage = .tried ∧
        task.trace.polled = some system.now := by
  cases changed_of_step pooled stepped found with
  | dispatched started new => cases queued
  | kept before other => exact .inl before
  | own before own => exact absurd queued (not_queued_after_ownStep own)
  | @pooled _ _ before _ beforeEq move =>
      cases move with
      | wait tried => exact .inr ⟨before, beforeEq, tried, rfl⟩
      | @takeUser waited user stageEq member => cases waited <;> cases queued
      | _ => cases queued
  | handed before waiting => cases queued

/-- A task that was in the queue and still is has not changed. -/
theorem same_of_waiting (pooled : system.Pooled virtualUserCount)
    (stepped : system.step lua web loadgeneratorId event = some next)
    (waiting : index ∈ system.waiters) (waits : index ∈ next.waiters)
    (found : next.tasks[index]? = some task) : system.tasks[index]? = some task := by
  rcases waiter_queued pooled waiting with ⟨before, beforeEq, queued⟩
  rcases waiter_queued (pooled.step stepped) waits with ⟨after, afterEq, stillQueued⟩
  cases afterEq.symm.trans found
  rcases queued_of_step pooled stepped found stillQueued with same | ⟨other, otherEq, tried, -⟩
  · exact same
  · cases beforeEq.symm.trans otherEq
    rw [tried] at queued
    cases queued

theorem Fair.queueStep (fair : system.Fair) (timed : system.Timed)
    (pooled : system.Pooled virtualUserCount)
    (stepped : system.step lua web loadgeneratorId event = some next) :
    next.waiters.Pairwise (PolledBefore next.tasks) := by
  have kept : ∀ {first second : Nat}, first ∈ system.waiters → first ∈ next.waiters →
      second ∈ system.waiters → second ∈ next.waiters →
        PolledBefore system.tasks first second → PolledBefore next.tasks first second :=
    fun waiting waits waiting' waits' before one other polled later oneEq otherEq =>
      before one other polled later (same_of_waiting pooled stepped waiting waits oneEq)
        (same_of_waiting pooled stepped waiting' waits' otherEq)
  rcases waiters_of_step stepped with sublist | ⟨index, task, found, tried, joined⟩
  · refine (fair.queue.sublist sublist).imp_of_mem ?_
    intro first second waits waits' before
    exact kept (sublist.subset waits) waits (sublist.subset waits') waits' before
  · rw [joined, List.pairwise_append]
    have stays : ∀ {waiter : Nat}, waiter ∈ system.waiters → waiter ∈ next.waiters := by
      intro waiter waiting
      rw [joined]
      exact List.mem_append_left _ waiting
    refine ⟨fair.queue.imp_of_mem ?_, List.pairwise_singleton _ _, ?_⟩
    · intro first second waiting waiting' before
      exact kept waiting (stays waiting) waiting' (stays waiting') before
    · intro first waiting last isLast one other polled later oneEq otherEq polledEq laterEq
      obtain rfl := List.mem_singleton.mp isLast
      -- the task that joins polls now, all others did so before
      have waits : last ∈ next.waiters := by
        rw [joined]
        exact List.mem_append_right _ isLast
      rcases waiter_queued (pooled.step stepped) waits with ⟨after, afterEq, queued⟩
      cases afterEq.symm.trans otherEq
      have justPolled : later = system.now := by
        rcases queued_of_step pooled stepped otherEq queued with same | ⟨-, -, -, polledNow⟩
        · cases found.symm.trans same
          rw [tried] at queued
          cases queued
        · exact Option.some.inj (laterEq.symm.trans polledNow)
      rcases waiter_queued pooled waiting with ⟨before, beforeEq, waiter⟩
      cases beforeEq.symm.trans
        (same_of_waiting pooled stepped waiting (stays waiting) oneEq)
      have timeline := timed.tasks first one beforeEq
      unfold Task.Timeline at timeline
      rw [waiter] at timeline
      rcases timeline with ⟨-, -, polledAt, -, polledAtEq, -, past, -⟩
      cases polledAtEq.symm.trans polledEq
      rw [justPolled]
      exact past

theorem Fair.servedStep (fair : system.Fair) (timed : system.Timed)
    (pooled : system.Pooled virtualUserCount)
    (past : ∀ (index : Nat) (task : Task World Url Jar), system.tasks[index]? = some task →
      ∀ time ∈ task.trace.handed, time ≤ system.now)
    (stepped : system.step lua web loadgeneratorId event = some next) {first second : Nat}
    {waiter other : Task World Url Jar} {polled polled' time : Instant}
    (found : next.tasks[first]? = some waiter) (queued : waiter.stage = .queued)
    (polledEq : waiter.trace.polled = some polled)
    (found' : next.tasks[second]? = some other) (polledEq' : other.trace.polled = some polled')
    (handed : time ∈ other.trace.handed) : time ≤ polled ∨ polled' ≤ polled := by
  have waits := queued_of_step pooled stepped found queued
  -- whoever has just begun to wait comes after everybody who was handed a permit
  have justPolled : time ≤ system.now → (∃ before, system.tasks[first]? = some before ∧
      before.stage = .tried ∧ waiter.trace.polled = some system.now) →
        time ≤ polled ∨ polled' ≤ polled := by
    rintro before ⟨-, -, -, polledNow⟩
    cases polledNow.symm.trans polledEq
    exact .inl before
  have unchanged : ∀ before : Task World Url Jar, system.tasks[second]? = some before →
      before.trace.polled = some polled' → time ∈ before.trace.handed →
        time ≤ polled ∨ polled' ≤ polled := by
    intro before beforeEq samePolled sameHanded
    rcases waits with waiting | joins
    · exact fair.served first second waiter before polled polled' time waiting queued polledEq
        beforeEq samePolled sameHanded
    · exact justPolled (past second before beforeEq time sameHanded) joins
  cases changed_of_step pooled stepped found' with
  | dispatched started new => cases handed
  | kept before _ => exact unchanged other before polledEq' handed
  | @own _ _ before _ beforeEq own =>
      rcases trace_ownStep own with ⟨samePolled, sameHanded⟩
      exact unchanged before beforeEq (samePolled ▸ polledEq') (sameHanded ▸ handed)
  | @pooled _ _ before _ beforeEq move =>
      rcases trace_poolMove move with tried | ⟨samePolled, sameHanded⟩
      · have timeline := timed.tasks second before beforeEq
        unfold Task.Timeline at timeline
        rw [tried] at timeline
        have notHanded := timeline.1
        cases move with
        | claim _ unclaimed =>
            have now : time = system.now := by
              simpa [Task.hand, Task.poll, notHanded] using handed
            rcases waits with waiting | joins
            · exact absurd queued (not_queued pooled unclaimed waiting)
            · exact justPolled now.le joins
        | wait => exact absurd handed (by simp [Task.enter, Task.poll, notHanded])
        | takePermit stageEq | miss stageEq | resume stageEq | panic stageEq | takeUser stageEq
        | push stageEq | drop stageEq | log stageEq => cases tried.symm.trans stageEq
        | timeOut waiting =>
            rcases waiting with stageEq | stageEq <;> cases tried.symm.trans stageEq
      · exact unchanged before beforeEq (samePolled ▸ polledEq') (sameHanded ▸ handed)
  | @handed _ _ before beforeEq waiting =>
      rcases List.mem_append.mp handed with old | new
      · exact unchanged before beforeEq polledEq' old
      · have now : time = system.now := List.mem_singleton.mp new
        rcases waits with stillWaits | joins
        · right
          have head := first_of_handed stepped beforeEq waiting found' rfl
          have member : first ∈ system.waiters := by
            rw [pooled.queue.mem_iff, callers_eq stillWaits, queued]
            rfl
          rcases List.head?_eq_some_iff.mp head with ⟨rest, waiters⟩
          have inOrder := fair.queue
          rw [waiters] at member inOrder
          rcases List.mem_cons.mp member with rfl | later
          · cases found.symm.trans found'
            cases queued
          · exact (List.pairwise_cons.mp inOrder).1 first later before waiter polled' polled
              beforeEq stillWaits polledEq' polledEq
        · exact justPolled now.le joins

theorem fair_of_reachable
    (reachable : (machine lua web loadgeneratorId virtualUserCount).Reachable system) :
    system.Fair := by
  apply Machine.ReachableBy.invariant_of_known (fun _ reached => reached) _ _ reachable
  · intro system initial
    refine ⟨?_, ?_⟩
    · rw [initial.2.1]
      exact .nil
    · intro first second waiter other polled polled' time found
      rw [initial.2.2.1] at found
      cases found
  · intro system event next reached fair _ stepped
    rcases Option.map_eq_some_iff.mp stepped with ⟨moved, step, rfl⟩
    have pooled := pooled_of_reachable reached
    have timed := timed_of_reachable reached
    have past := fun index task => @handed_le_now _ _ _ _ _ _ _ _ index task reached
    constructor
    · rw [observe_tasks, observe_waiters]
      exact fair.queueStep timed pooled step
    · rw [observe_tasks]
      intro first second waiter other polled polled' time found queued polledEq found' polledEq'
        handed
      exact fair.servedStep timed pooled past step found queued polledEq found' polledEq' handed

/-- Nobody is handed a permit without having polled `acquire`. -/
theorem polled_of_handed
    (reachable : (machine lua web loadgeneratorId virtualUserCount).Reachable system)
    (found : system.tasks[index]? = some task) :
    (task.stage = .queued ∨ task.trace.handed ≠ []) → task.trace.polled.isSome := by
  refine forall_tasks_of_reachableBy
    (fun _ task => task.stage = .queued ∨ task.trace.handed ≠ [] → task.trace.polled.isSome)
    ?_ ?_ ?_ ?_ ?_ reachable found
  · rintro now startTime targetTime started (queued | handed)
    · cases queued
    · exact absurd rfl handed
  · exact fun now later task polled le => polled
  · intro system index event task task' _ _ polled own served
    rcases trace_ownStep own with ⟨samePolled, sameHanded⟩
    rw [samePolled]
    apply polled
    rcases served with queued | handed
    · exact absurd queued (not_queued_after_ownStep own)
    · exact .inr (sameHanded ▸ handed)
  · intro system task task' polled move served
    cases move with
    | claim | wait => rfl
    | takeUser stageEq =>
        rcases served with queued | handed
        · rename_i waited _ _
          cases waited <;> cases queued
        · exact polled (.inr handed)
    | _ =>
        rcases served with queued | handed
        · cases queued
        · exact polled (.inr handed)
  · exact fun now task polled queued _ => polled (.inl queued)

/-- While a transaction waits, permits are handed only to those who began to wait no later. -/
theorem first_come_first_served
    (reachable : (machine lua web loadgeneratorId virtualUserCount).Reachable system)
    {first second : Nat} {waiter other : Task World Url Jar}
    (found : system.tasks[first]? = some waiter) (queued : waiter.stage = .queued)
    (found' : system.tasks[second]? = some other) {time : Instant}
    (handed : time ∈ other.trace.handed) :
    ∃ polled polled', waiter.trace.polled = some polled ∧ other.trace.polled = some polled' ∧
      (time ≤ polled ∨ polled' ≤ polled) := by
  rcases Option.isSome_iff_exists.mp (polled_of_handed reachable found (.inl queued)) with
    ⟨polled, polledEq⟩
  rcases Option.isSome_iff_exists.mp
    (polled_of_handed reachable found' (.inr (List.ne_nil_of_mem handed))) with
    ⟨polled', polledEq'⟩
  exact ⟨polled, polled', polledEq, polledEq', (fair_of_reachable reachable).served first second
    waiter other polled polled' time found queued polledEq found' polledEq' handed⟩

end

end System

/-- The second transaction waits since 1 ms and the third one since 2 ms; the permit that is
given back goes to the second one. -/
theorem System.first_come_first_served_threeTasks :
    ∃ (system : System Unit String Unit) (waiter other : Task Unit String Unit),
      system.tasks[2]? = some waiter ∧ system.tasks[1]? = some other ∧
        other.trace.handed = [3000000] ∧ ∃ polled polled', waiter.trace.polled = some polled ∧
          other.trace.polled = some polled' ∧ (3000000 ≤ polled ∨ polled' ≤ polled) := by
  have ⟨system, reachable, checked⟩ := OneUser.machine.exists_reachable_of_exec OneUser.initial
    [OneUser.dispatch 0, OneUser.dispatch 0, OneUser.dispatch 0, .task 0 .checkDeadline,
      .task 0 .tryAcquire, .task 0 (.takeRandomUser 0), .task 0 (.nextUserSpec 0),
      .task 1 .checkDeadline, .task 2 .checkDeadline, .task 1 .tryAcquire, .task 2 .tryAcquire,
      .tick 1000000, .task 1 .acquire, .tick 1000000, .task 2 .acquire, .task 0 .resolveUrl,
      .task 0 .measure, .task 0 .send, .tick 1000000, .task 0 (.receive (.ok ⟨200, [], none⟩)),
      .task 0 .finish, .task 0 .judge, .task 0 .convert, .task 0 .push, .task 0 .addPermits]
    (fun system => (system.tasks[2]?.any fun task => task.stage.call = .acquiring) &&
      system.tasks[1]?.any fun task => task.trace.handed = [3000000])
    (by decide)
  rw [Bool.and_eq_true] at checked
  rcases (Option.any_eq_true _ _).mp checked.1 with ⟨waiter, found, acquiring⟩
  rcases (Option.any_eq_true _ _).mp checked.2 with ⟨other, found', handed⟩
  have handedEq : other.trace.handed = [3000000] := of_decide_eq_true handed
  exact ⟨system, waiter, other, found, found', handedEq, System.first_come_first_served reachable
    found (System.stage_of_acquiring (of_decide_eq_true acquiring)) found' (by simp [handedEq])⟩

end Dispatch

end CreoBench
