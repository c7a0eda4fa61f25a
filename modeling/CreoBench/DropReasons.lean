import CreoBench.DispatchTiming

/-!
# Why transactions are dropped

A drop for want of a user is blamed on the pool rightly exactly if no permit was
unclaimed before the task polled `acquire` and none was handed to it in time:
from then on the queue sees to it that a free user reaches the task.  A drop for
lateness is blamed on the generator without a look at the pool.
-/

namespace CreoBench

namespace Dispatch

variable {World Url Jar : Type}

/-- A permit lay unclaimed at `time`. -/
def FreeAt (free : List (Instant × Instant)) (time : Instant) : Prop :=
  ∃ span ∈ free, span.1 ≤ time ∧ time ≤ span.2

def Stage.dropped : Stage World Url Jar → Option DroppedCode
  | .dropping code | .releasing _ (.drop code) | .pushed (.drop code) => some code
  | _ => none

namespace Task

variable (free : List (Instant × Instant)) (task : Task World Url Jar)

/-- No user was free for the task from its first run to its deadline: no permit was
unclaimed, and none was handed to it. -/
def NoUserInTime : Prop :=
  (∀ first time, task.trace.firstRun = some first → first ≤ time → time ≤ task.deadline →
    ¬ FreeAt free time) ∧
    ∀ time ∈ task.trace.handed, task.deadline < time

/-- A user was free at some time between the scheduled arrival and the deadline. -/
def UserInTime : Prop :=
  ∃ time, task.transaction.startTime.instant.instant ≤ time ∧ time ≤ task.deadline ∧
    FreeAt free time

/-- The reason of a drop is what the codes stand for. -/
def Attributed : DroppedCode → Prop
  | .noVirtualUser => task.NoUserInTime free
  | .late => task.UserInTime free
  | .error _ => True

/-- Nobody took a permit in front of the task before it polled `acquire`, and none was
handed to it by its deadline; a task that ran too late could have had a user. -/
def FairlyDropped : DroppedCode → Prop
  | .noVirtualUser =>
      (∀ first polled time, task.trace.firstRun = some first →
        task.trace.polled = some polled → first ≤ time → time ≤ polled →
          time ≤ task.deadline → ¬ FreeAt free time) ∧
        ∀ time ∈ task.trace.handed, task.deadline < time
  | .late => task.UserInTime free
  | .error _ => True

end Task

/-- What the trace of a task and the times of unclaimed permits have to do with each
other while the task is on its way to a user. -/
def Timeline (now : Instant) (free : List (Instant × Instant)) (trace : Trace World Jar) :
    Stage World Url Jar → Prop
  | .spawned => trace.handed = []
  | .onSchedule | .tried => trace.handed = [] ∧ ∃ first ≤ now, trace.firstRun = some first
  | .queued => trace.handed = [] ∧ ∃ first polled, trace.firstRun = some first ∧
      trace.polled = some polled ∧ first ≤ polled ∧ polled ≤ now ∧
        ∀ span ∈ free, span.2 ≤ polled
  | .assigned | .permitted true | .awaited _ => ∃ first polled handed,
      trace.firstRun = some first ∧ trace.polled = some polled ∧ trace.handed = [handed] ∧
        first ≤ polled ∧ polled ≤ handed ∧ handed ≤ now ∧
          ∀ span ∈ free, span.2 ≤ polled ∨ handed ≤ span.1
  | _ => True

def Task.Timeline (now : Instant) (free : List (Instant × Instant))
    (task : Task World Url Jar) : Prop :=
  Dispatch.Timeline now free task.trace task.stage

section Timeline

variable {now later : Instant} {free : List (Instant × Instant)} {task task' : Task World Url Jar}

theorem Task.Timeline.advance (timeline : task.Timeline now free) (after : now ≤ later) :
    task.Timeline later free := by
  unfold Task.Timeline Dispatch.Timeline at *
  split at timeline
  · exact timeline
  · rcases timeline with ⟨none_handed, first, before, firstRun⟩
    exact ⟨none_handed, first, before.trans after, firstRun⟩
  · rcases timeline with ⟨none_handed, first, before, firstRun⟩
    exact ⟨none_handed, first, before.trans after, firstRun⟩
  · rcases timeline with ⟨none_handed, first, polled, firstRun, polledEq, run, before, spans⟩
    exact ⟨none_handed, first, polled, firstRun, polledEq, run, before.trans after, spans⟩
  all_goals try trivial
  all_goals
    rcases timeline with
      ⟨first, polled, handed, firstRun, polledEq, handedEq, run, wait, before, spans⟩
    exact ⟨first, polled, handed, firstRun, polledEq, handedEq, run, wait, before.trans after,
      spans⟩

/-- A permit that is unclaimed when nobody is in the queue. -/
theorem Task.Timeline.extend (timeline : task.Timeline now free) (running : task.stage ≠ .queued)
    (after : now ≤ later) : task.Timeline later (free ++ [(now, later)]) := by
  unfold Task.Timeline Dispatch.Timeline at *
  split at timeline
  · exact timeline
  · rcases timeline with ⟨none_handed, first, before, firstRun⟩
    exact ⟨none_handed, first, before.trans after, firstRun⟩
  · rcases timeline with ⟨none_handed, first, before, firstRun⟩
    exact ⟨none_handed, first, before.trans after, firstRun⟩
  · next queued => exact absurd queued running
  all_goals try trivial
  all_goals
    rcases timeline with
      ⟨first, polled, handed, firstRun, polledEq, handedEq, run, wait, before, spans⟩
    refine ⟨first, polled, handed, firstRun, polledEq, handedEq, run, wait,
      before.trans after, ?_⟩
    intro span member
    rcases List.mem_append.mp member with old | new
    · exact spans span old
    · rw [List.mem_singleton.mp new]
      exact .inr before

theorem timeline_ownStep {lua : Lua World} {web : WebLibrary Url Jar} {event : TaskEvent}
    (timeline : task.Timeline now free)
    (stepped : ownStep lua web now task task.stage event = some task') :
    task'.Timeline now free := by
  unfold Task.Timeline at timeline
  revert timeline stepped
  generalize stageEq : task.stage = stage
  fun_cases ownStep lua web now task stage event
  all_goals intro timeline stepped
  all_goals cases stepped
  case case2 => exact ⟨timeline, now, le_rfl, rfl⟩
  all_goals trivial

theorem timeline_hand (timeline : task.Timeline now free) (queued : task.stage = .queued) :
    (task.hand now).Timeline now free := by
  unfold Task.Timeline at timeline
  rw [queued] at timeline
  rcases timeline with ⟨none_handed, first, polled, firstRun, polledEq, run, before, spans⟩
  have handedEq : (task.hand now).trace.handed = [now] := by
    simp [Task.hand, none_handed]
  exact ⟨first, polled, now, firstRun, polledEq, handedEq, run, before, le_rfl,
    fun span member => .inl (spans span member)⟩

theorem timeline_poolMove {system : System World Url Jar}
    (timeline : task.Timeline system.now free) (past : ∀ span ∈ free, span.2 ≤ system.now)
    (move : PoolMove system task task') : task'.Timeline system.now free := by
  unfold Task.Timeline at timeline
  cases move with
  | miss stageEq =>
      rw [stageEq] at timeline
      exact timeline
  | claim stageEq =>
      rw [stageEq] at timeline
      rcases timeline with ⟨none_handed, first, before, firstRun⟩
      have handedEq : ((task.poll system.now).hand system.now).trace.handed = [system.now] := by
        simp [Task.hand, Task.poll, none_handed]
      exact ⟨first, system.now, system.now, firstRun, rfl, handedEq, before, le_rfl, le_rfl,
        fun span member => .inl (past span member)⟩
  | wait stageEq =>
      rw [stageEq] at timeline
      rcases timeline with ⟨none_handed, first, before, firstRun⟩
      exact ⟨none_handed, first, system.now, firstRun, rfl, before, le_rfl, past⟩
  | resume stageEq =>
      rw [stageEq] at timeline
      exact timeline
  | @takeUser waited user stageEq member =>
      rw [stageEq] at timeline
      cases waited with
      | false => trivial
      | true => exact timeline
  | _ => trivial

end Timeline

namespace System

variable {system next : System World Url Jar} {lua : Lua World} {web : WebLibrary Url Jar}
variable {loadgeneratorId : LoadGeneratorId} {virtualUserCount : UInt32}
variable {index : Nat} {task task' : Task World Url Jar} {event : Event}

structure Timed (system : System World Url Jar) : Prop where
  past : ∀ span ∈ system.free, span.2 ≤ system.now
  tasks : ∀ (index : Nat) (task : Task World Url Jar), system.tasks[index]? = some task →
    task.Timeline system.now system.free

/-- Nobody is in the queue while a permit is unclaimed. -/
theorem not_queued (pooled : system.Pooled virtualUserCount)
    (unclaimed : 0 < system.pool.available) (found : system.tasks[index]? = some task) :
    task.stage ≠ .queued := by
  intro queued
  have callers := callers_eq found
  rw [queued] at callers
  have waiting : index ∈ system.waiters := (pooled.queue.mem_iff index).mpr callers
  have noneLeft := pooled.queue.served (List.ne_nil_of_mem waiting)
  omega

theorem Timed.step (timed : system.Timed) (pooled : system.Pooled virtualUserCount)
    (stepped : system.step lua web loadgeneratorId event = some next) :
    (system.observe next).Timed := by
  rcases free_of_step stepped with ⟨sameFree, later⟩
  have tasks : ∀ (index : Nat) (task : Task World Url Jar), next.tasks[index]? = some task →
      task.Timeline system.now system.free := by
    intro index task found
    cases changed_of_step pooled stepped found with
    | dispatched started new => exact Eq.refl _
    | kept before other => exact timed.tasks index task before
    | own before own => exact timeline_ownStep (timed.tasks index _ before) own
    | pooled before move => exact timeline_poolMove (timed.tasks index _ before) timed.past move
    | handed before queued => exact timeline_hand (timed.tasks index _ before) queued
  unfold observe
  split_ifs with unclaimed
  · constructor
    · intro span member
      rcases List.mem_append.mp member with old | new
      · exact (timed.past span (sameFree ▸ old)).trans later
      · rw [List.mem_singleton.mp new]
    · intro index task found
      have running := not_queued (pooled.step stepped) unclaimed found
      have extended := (tasks index task found).extend running later
      rwa [← sameFree] at extended
  · constructor
    · intro span member
      exact (timed.past span (sameFree ▸ member)).trans later
    · intro index task found
      rw [sameFree]
      exact (tasks index task found).advance later

theorem timed_of_reachable
    (reachable : (machine lua web loadgeneratorId virtualUserCount).Reachable system) :
    system.Timed := by
  apply Machine.ReachableBy.invariant_of_known (fun _ reached => pooled_of_reachable reached)
    _ _ reachable
  · intro system initial
    rcases initial with ⟨-, -, noTasks, free⟩
    constructor
    · intro span member
      rw [free] at member
      split_ifs at member
      · rw [List.mem_singleton.mp member]
      · cases member
    · intro index task found
      rw [noTasks] at found
      cases found
  · intro system event next pooled timed _ stepped
    rcases Option.map_eq_some_iff.mp stepped with ⟨moved, step, rfl⟩
    exact timed.step pooled step

end System

namespace OneUser

/-- The only user is busy from the start, and the second transaction, due after 1 ms,
first runs after `delay` more. -/
def busyUser (delay : Duration) : List System.Event :=
  [dispatch 0, .task 0 .checkDeadline, .task 0 .tryAcquire, .tick 1000000, dispatch 1000000,
    .tick delay]

/-- The next step drops the second transaction with `code`. -/
def dropsSecond (event : TaskEvent) (code : DroppedCode) (system : System Unit String Unit) :
    Bool :=
  ((machine.step system (.task 1 event)).any fun next =>
      (next.tasks[1]?).any fun task => task.stage.dropped = some code) &&
    (system.tasks[1]?).any fun task => task.stage.dropped = none

end OneUser

end Dispatch

end CreoBench
