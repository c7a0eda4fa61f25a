import CreoBench.DispatchTasks

/-!
# Results describe the requests that were sent

At every stage the trace of a task is what the stage says: one user from the
moment it is taken, one request from the moment it is sent.  The user of a task
is the one it took with its cursor where the outcome leaves it, and a result
names that user and the spec whose request it sent.
-/

namespace CreoBench

namespace Dispatch

variable {World Url Jar : Type}

/-- The same user, with the cursor of its script at `cursor`. -/
structure MovedTo (before after : VirtualUser World Jar) (cursor : Nat) : Prop where
  id : after.id = before.id
  runner : before.runner.MovedTo after.runner cursor

/-- The cursor behind the spec `specId`. -/
def IsBehind (user : VirtualUser World Jar) (specId : SpecId) (cursor : Nat) : Prop :=
  ∃ index < user.runner.userSpecs.length,
    specId = .ofIndex index ∧ cursor = (index + 1) % user.runner.userSpecs.length

/-- An attempt of the user that was taken as `before`. -/
structure Attempt.Of (attempt : Attempt World Jar) (before : VirtualUser World Jar) : Prop where
  handle : attempt.handle = ⟨before.runner.userCursor⟩
  behind : ∃ cursor, IsBehind before attempt.specId cursor ∧ MovedTo before attempt.user cursor

/-- One request of the user for the spec. -/
def SentOnce (before : VirtualUser World Jar) (id : VirtualUserId) (specId : SpecId)
    (sentAt : Instant) (sends : List Send) : Prop :=
  id = before.id ∧ ∃ request, sends = [⟨id, specId, sentAt, request⟩]

/-- What an outcome says about the requests and the cursor of the user. -/
def Concluded (before after : VirtualUser World Jar) (sends : List Send) : Outcome → Prop
  | .dropped id _ => id = some before.id ∧ sends = [] ∧
      MovedTo before after before.runner.userCursor
  | .success id specId timing => SentOnce before id specId timing.sentAt sends ∧
      ∃ cursor, IsBehind before specId cursor ∧ MovedTo before after cursor
  | .failed id specId timing _ | .timeout id specId timing _ =>
      SentOnce before id specId timing.sentAt sends ∧
        MovedTo before after before.runner.userCursor

/-- The requests that a result speaks of. -/
def DescribesSends (transaction : Transaction) (result : TransactionResult)
    (sends : List Send) : Prop :=
  match result.metadata with
  | none => sends = []
  | some metadata => ∃ sentAt request,
      sends = [⟨metadata.virtualUserId, metadata.specId, sentAt, request⟩] ∧
        metadata.startTime = transaction.startTime.relativeToStart ∧
          metadata.sendTime = transaction.startTime.relativeToStartOf sentAt

/-- A user that was taken as `before` and is returned as `after`: it has sent the
request, and only a success moves its cursor. -/
structure DescribesUser (result : TransactionResult) (before after : VirtualUser World Jar) :
    Prop where
  id : after.id = before.id
  sender : ∀ metadata, result.metadata = some metadata → metadata.virtualUserId = before.id
  forward : ∀ metadata, result.metadata = some metadata → result.isSuccess →
    IsBehind before metadata.specId after.runner.userCursor
  back : result.isSuccess = false → after.runner.userCursor = before.runner.userCursor

/-- A result describes what its task has done: no request or one, and no user or one
that was taken and released. -/
structure Describes (transaction : Transaction) (trace : Trace World Jar)
    (result : TransactionResult) : Prop where
  sends : DescribesSends transaction result trace.sends
  users : trace.acquired = [] ∧ trace.released = [] ∧ trace.sends = [] ∨
    ∃ before after, trace.acquired = [before] ∧ trace.released = [after] ∧
      DescribesUser result before after

/-- A trace apart from the times at which the task ran and was handed permits. -/
structure Trace.Has (trace : Trace World Jar) (acquired : List (VirtualUser World Jar))
    (sends : List Send) (released : List (VirtualUser World Jar))
    (logged : List TransactionResult) : Prop where
  acquired : trace.acquired = acquired
  sends : trace.sends = sends
  released : trace.released = released
  logged : trace.logged = logged

/-- A user whose script is in order. -/
def Fit (user : VirtualUser World Jar) : Prop := user.runner.WellFormed

/-- The trace that belongs to a stage. -/
def Accounted (transaction : Transaction) (trace : Trace World Jar) :
    Stage World Url Jar → Prop
  | .spawned | .onSchedule | .tried | .queued | .assigned | .permitted _ =>
      trace.Has [] [] [] []
  | .awaited user | .ready user | .releasing user (.drop _) =>
      Fit user ∧ trace.Has [user] [] [] []
  | .resolved attempt | .located attempt _ | .measuring attempt _ _ =>
      ∃ before, Fit before ∧ attempt.Of before ∧ trace.Has [before] [] [] []
  | .sending attempt _ sentAt | .received attempt sentAt _ =>
      ∃ before sends, Fit before ∧ attempt.Of before ∧ trace.Has [before] sends [] [] ∧
        SentOnce before before.id attempt.specId sentAt sends
  | .measured attempt _ timing =>
      ∃ before sends, Fit before ∧ attempt.Of before ∧ trace.Has [before] sends [] [] ∧
        SentOnce before before.id attempt.specId timing.sentAt sends
  | .concluded user outcome =>
      ∃ before sends, Fit before ∧ trace.Has [before] sends [] [] ∧
        Concluded before user sends outcome
  | .releasing user (.log result) =>
      ∃ before sends, Fit before ∧ trace.Has [before] sends [] [] ∧ Fit user ∧
        DescribesSends transaction result sends ∧ DescribesUser result before user
  | .pushed (.log result) =>
      ∃ before after sends, trace.Has [before] sends [after] [] ∧
        DescribesSends transaction result sends ∧ DescribesUser result before after
  | .pushed (.drop _) => ∃ user, trace.Has [user] [] [user] []
  | .dropping _ => trace.Has [] [] [] [] ∨ ∃ user, trace.Has [user] [] [user] []
  | .logging result => trace.logged = [] ∧ Describes transaction trace result
  | .finished => ∃ result, trace.logged = [result] ∧ Describes transaction trace result
  | .panicked _ => False

def Task.Accounted (task : Task World Url Jar) : Prop :=
  Dispatch.Accounted task.transaction task.trace task.stage

/-! ## The end of an attempt -/

theorem MovedTo.fit {before after : VirtualUser World Jar} {cursor : Nat} (fit : Fit before)
    (moved : MovedTo before after cursor) (bound : cursor < before.runner.userSpecs.length) :
    Fit after :=
  ScriptRunner.WellFormed.movedTo fit moved.runner bound

theorem IsBehind.bound {user : VirtualUser World Jar} {specId : SpecId} {cursor : Nat}
    (behind : IsBehind user specId cursor) : cursor < user.runner.userSpecs.length := by
  rcases behind with ⟨index, bound, -, rfl⟩
  exact Nat.mod_lt _ (Nat.zero_lt_of_lt bound)

theorem Concluded.fit {before after : VirtualUser World Jar} {sends : List Send}
    {outcome : Outcome} (fit : Fit before) (concluded : Concluded before after sends outcome) :
    Fit after := by
  cases outcome with
  | dropped id code => exact concluded.2.2.fit fit fit.cursor
  | success id specId timing =>
      rcases concluded.2 with ⟨cursor, behind, moved⟩
      exact moved.fit fit behind.bound
  | failed id specId timing code => exact concluded.2.fit fit fit.cursor
  | timeout id specId timing code => exact concluded.2.fit fit fit.cursor

/-- The result that is made of an outcome describes what the outcome does. -/
theorem Concluded.describes {before after : VirtualUser World Jar} {sends : List Send}
    {outcome : Outcome} (concluded : Concluded before after sends outcome)
    (transaction : Transaction) (now : Instant) :
    DescribesSends transaction (outcome.result transaction now) sends ∧
      DescribesUser (outcome.result transaction now) before after := by
  cases outcome with
  | dropped id code =>
      rcases concluded with ⟨-, noSends, moved⟩
      exact ⟨noSends, moved.id, nofun, nofun, fun _ => moved.runner.cursor⟩
  | success id specId timing =>
      rcases concluded with ⟨⟨same, request, sent⟩, cursor, behind, moved⟩
      refine ⟨⟨timing.sentAt, request, sent, rfl, rfl⟩, moved.id, ?_, ?_, nofun⟩
      · rintro _ ⟨⟩
        exact same
      · rintro _ ⟨⟩ -
        rw [moved.runner.cursor]
        exact behind
  | failed id specId timing code =>
      rcases concluded with ⟨⟨same, request, sent⟩, moved⟩
      refine ⟨⟨timing.sentAt, request, sent, rfl, rfl⟩, moved.id, ?_, nofun,
        fun _ => moved.runner.cursor⟩
      rintro _ ⟨⟩
      exact same
  | timeout id specId timing code =>
      rcases concluded with ⟨⟨same, request, sent⟩, moved⟩
      refine ⟨⟨timing.sentAt, request, sent, rfl, rfl⟩, moved.id, ?_, nofun,
        fun _ => moved.runner.cursor⟩
      rintro _ ⟨⟩
      exact same

section Conclude

variable {before user : VirtualUser World Jar} {handle : RevertHandle} {specId : SpecId}
variable {sends : List Send} {cursor : Nat}

theorem MovedTo.revert (handleEq : handle = ⟨before.runner.userCursor⟩)
    (moved : MovedTo before user cursor) :
    MovedTo before { user with runner := user.runner.revert handle }
      before.runner.userCursor := by
  subst handleEq
  exact ⟨moved.id, moved.runner.specs, moved.runner.byName, Eq.refl _⟩

theorem conclude_ok {timing : RequestTiming} (behind : IsBehind before specId cursor)
    (moved : MovedTo before user cursor)
    (sent : SentOnce before before.id specId timing.sentAt sends) :
    Concluded before (user.conclude handle specId (.ok timing)).2 sends
      (user.conclude handle specId (.ok timing)).1 := by
  refine ⟨⟨moved.id, ?_⟩, cursor, behind, moved⟩
  rw [moved.id]
  exact sent.2

theorem conclude_error {err : HttpExecuteError} {timing : RequestTiming}
    (handleEq : handle = ⟨before.runner.userCursor⟩) (moved : MovedTo before user cursor)
    (timed : err.timing = some timing)
    (sent : SentOnce before before.id specId timing.sentAt sends) :
    Concluded before (user.conclude handle specId (.error err)).2 sends
      (user.conclude handle specId (.error err)).1 := by
  have back := moved.revert handleEq
  have sentOnce : SentOnce before user.id specId timing.sentAt sends :=
    ⟨moved.id, moved.id ▸ sent.2⟩
  cases err with
  | url source => cases timed
  | _ => cases timed; exact ⟨sentOnce, back⟩

theorem conclude_url {source : UrlError} (handleEq : handle = ⟨before.runner.userCursor⟩)
    (moved : MovedTo before user cursor) :
    Concluded before (user.conclude handle specId (.error (.url source))).2 []
      (user.conclude handle specId (.error (.url source))).1 :=
  ⟨congrArg some moved.id, rfl, moved.revert handleEq⟩

end Conclude

/-! ## Steps -/

theorem accounted_nextUserSpec_error {lua : Lua World} {calls : Nat}
    {user : VirtualUser World Jar} {err : Script.Error} {runner : ScriptRunner World}
    (fit : Fit user)
    (resolved : user.runner.nextUserSpec lua calls = .returned (.error err, runner)) :
    Concluded user { user with runner } [] (.dropped (some user.id) (.error err.text)) := by
  have moved := @ScriptRunner.nextUserSpec_spec _ lua calls _ fit
  rw [resolved] at moved
  exact ⟨rfl, rfl, rfl, moved⟩

theorem attempt_of_nextUserSpec {lua : Lua World} {calls : Nat}
    {user : VirtualUser World Jar} {handle : RevertHandle} {specId : SpecId}
    {spec : HttpStaticRequestSpec} {runner : ScriptRunner World} (fit : Fit user)
    (resolved : user.runner.nextUserSpec lua calls =
      .returned (.ok (handle, specId, .http spec), runner)) :
    Attempt.Of { user := { user with runner }, handle, specId, spec } user := by
  have returned := @ScriptRunner.nextUserSpec_spec _ lua calls _ fit
  rw [resolved] at returned
  rcases returned with ⟨handleEq, index, bound, specIdEq, moved⟩
  exact ⟨handleEq, _, ⟨index, bound, specIdEq, rfl⟩, rfl, moved⟩

theorem accounted_judge (lua : Lua World) {before : VirtualUser World Jar}
    {attempt : Attempt World Jar} {sends : List Send} {timing : RequestTiming}
    (attempted : attempt.Of before)
    (sent : SentOnce before before.id attempt.specId timing.sentAt sends)
    (response : Except RequestError HttpResponse) :
    let judged := attempt.user.judge lua attempt.spec response timing
    let concluded := judged.2.conclude attempt.handle attempt.specId judged.1
    Concluded before concluded.2 sends concluded.1 := by
  intro judged concluded
  rcases attempted.behind with ⟨cursor, behind, moved⟩
  rcases VirtualUser.judge_spec lua attempt.user attempt.spec response timing with
    ⟨verdict, stays⟩
  have movedOn : MovedTo before judged.2 cursor :=
    ⟨(VirtualUser.judge_id ..).trans moved.id, stays.specs.trans moved.runner.specs,
      stays.byName.trans moved.runner.byName, stays.cursor.trans moved.runner.cursor⟩
  rcases verdict with ok | ⟨err, failed, timed⟩
  · have judgedOk : judged.1 = .ok timing := ok
    simp only [concluded, judgedOk]
    exact conclude_ok behind movedOn sent
  · have judgedError : judged.1 = .error err := failed
    simp only [concluded, judgedError]
    exact conclude_error attempted.handle movedOn timed sent

theorem accounted_ownStep {lua : Lua World} {web : WebLibrary Url Jar} {now : Instant}
    {task task' : Task World Url Jar} {event : TaskEvent} (accounted : task.Accounted)
    (stepped : ownStep lua web now task task.stage event = some task') :
    task'.Accounted := by
  unfold Task.Accounted at accounted
  revert accounted stepped
  generalize stageEq : task.stage = stage
  fun_cases ownStep lua web now task stage event
  all_goals intro accounted stepped
  all_goals cases stepped
  case case1 => exact .inl ⟨accounted.1, accounted.2, accounted.3, accounted.4⟩
  case case2 => exact ⟨accounted.1, accounted.2, accounted.3, accounted.4⟩
  case case3 | case4 => exact accounted
  case case6 user calls panicked =>
    have never := @ScriptRunner.nextUserSpec_spec _ lua calls _ accounted.1
    rw [panicked] at never
    exact never.elim
  case case7 user calls err runner resolved =>
    exact ⟨user, [], accounted.1, accounted.2, accounted_nextUserSpec_error accounted.1 resolved⟩
  case case8 user calls handle specId spec runner resolved =>
    exact ⟨user, accounted.1, attempt_of_nextUserSpec accounted.1 resolved, accounted.2⟩
  case case9 | case11 => exact accounted
  case case10 attempt source unresolved =>
    rcases accounted with ⟨before, fit, attempted, has⟩
    rcases attempted.behind with ⟨cursor, -, moved⟩
    exact ⟨before, [], fit, has, conclude_url attempted.handle moved⟩
  case case12 attempt url sentAt =>
    rcases accounted with ⟨before, fit, attempted, has⟩
    rcases attempted.behind with ⟨cursor, -, moved⟩
    refine ⟨before, _, fit, attempted, ⟨has.acquired, rfl, has.released, has.logged⟩, rfl,
      attempt.user.request web url attempt.spec, ?_⟩
    change task.trace.sends ++ [_] = _
    rw [has.sends, moved.id]
    rfl
  case case13 attempt url sentAt response =>
    rcases accounted with ⟨before, sends, fit, attempted, has, sent⟩
    rcases attempted.behind with ⟨cursor, behind, moved⟩
    refine ⟨before, sends, fit, ⟨attempted.handle, cursor, behind, ?_⟩, has, sent⟩
    refine ⟨(VirtualUser.storeCookies_id ..).trans moved.id, ?_⟩
    rw [VirtualUser.storeCookies_runner]
    exact moved.runner
  case case14 => exact accounted
  case case15 attempt response timing =>
    rcases accounted with ⟨before, sends, fit, attempted, has, sent⟩
    exact ⟨before, sends, fit, has, accounted_judge lua attempted sent response⟩
  case case16 user outcome =>
    rcases accounted with ⟨before, sends, fit, has, concluded⟩
    exact ⟨before, sends, fit, has, concluded.fit fit, concluded.describes task.transaction now⟩
  case case17 code =>
    rcases accounted with has | ⟨user, has⟩
    · exact ⟨has.logged, has.sends, .inl ⟨has.acquired, has.released, has.sends⟩⟩
    · exact ⟨has.logged, has.sends, .inr ⟨user, user, has.acquired, has.released, rfl,
        by rintro _ ⟨⟩, by rintro _ ⟨⟩, fun _ => rfl⟩⟩
  case case18 result =>
    rcases accounted with ⟨noLog, describes⟩
    refine ⟨result, ?_, describes.sends, describes.users⟩
    change task.trace.logged ++ [result] = [result]
    rw [noLog, List.nil_append]

theorem accounted_hand {task : Task World Url Jar} {now : Instant}
    (accounted : task.Accounted) (waiting : task.stage = .queued) :
    (task.hand now).Accounted := by
  unfold Task.Accounted at accounted
  rw [waiting] at accounted
  exact ⟨accounted.1, accounted.2, accounted.3, accounted.4⟩

theorem accounted_poolMove {system : System World Url Jar} {task task' : Task World Url Jar}
    (accounted : task.Accounted) (fit : ∀ user ∈ system.pool.users, Fit user)
    (free : ∀ waited, task.stage = .permitted waited → system.pool.users ≠ [])
    (move : PoolMove system task task') : task'.Accounted := by
  have trace := accounted
  unfold Task.Accounted at trace
  cases move with
  | claim stageEq | wait stageEq =>
      rw [stageEq] at trace
      exact ⟨trace.1, trace.2, trace.3, trace.4⟩
  | panic stageEq empty => exact absurd empty (free _ stageEq)
  | timeOut waiting late =>
      rcases waiting with stageEq | stageEq
      · rw [stageEq] at trace
        exact .inl trace
      · rw [stageEq] at trace
        exact .inl trace
  | @takeUser waited user stageEq member =>
      rw [stageEq] at trace
      have has : (task.acquire user).trace.Has [user] [] [] [] := by
        refine ⟨?_, trace.sends, trace.released, trace.logged⟩
        change task.trace.acquired ++ [user] = [user]
        rw [trace.acquired, List.nil_append]
      cases waited <;> exact ⟨fit user member, has⟩
  | @push user after stageEq =>
      rw [stageEq] at trace
      have released : (task.release user).trace.released = task.trace.released ++ [user] := rfl
      cases after with
      | drop code =>
          rcases trace with ⟨-, has⟩
          rw [has.released] at released
          exact ⟨user, has.acquired, has.sends, released, has.logged⟩
      | log result =>
          rcases trace with ⟨before, sends, -, has, -, describes⟩
          rw [has.released] at released
          exact ⟨before, user, sends, ⟨has.acquired, has.sends, released, has.logged⟩, describes⟩
  | drop stageEq =>
      rw [stageEq] at trace
      exact .inr trace
  | log stageEq =>
      rw [stageEq] at trace
      rcases trace with ⟨before, after, sends, has, describesSends, describesUser⟩
      refine ⟨has.logged, ?_, .inr ⟨before, after, has.acquired, has.released, describesUser⟩⟩
      have sameSends : task.trace.sends = sends := has.sends
      exact sameSends ▸ describesSends
  | takePermit stageEq | miss stageEq | resume stageEq =>
      rw [stageEq] at trace
      exact trace

namespace System

variable {system next : System World Url Jar} {lua : Lua World} {web : WebLibrary Url Jar}
variable {loadgeneratorId : LoadGeneratorId} {virtualUserCount : UInt32}

/-- The accounts of all tasks, and the scripts of the free users. -/
structure Accounted (system : System World Url Jar) : Prop where
  tasks : ∀ (index : Nat) (task : Task World Url Jar),
    system.tasks[index]? = some task → task.Accounted
  users : ∀ user ∈ system.pool.users, Fit user

/-- A task that is about to draw a user finds one. -/
theorem users_ne_nil (pooled : system.Pooled virtualUserCount) {index : Nat}
    {task : Task World Url Jar} (found : system.tasks[index]? = some task) {waited : Bool}
    (permitted : task.stage = .permitted waited) : system.pool.users ≠ [] := by
  have conserved := Pool.Shared.users_conserved pooled.reachable
  have member : Pool.Call.permitted ∈ system.shared.callers := by
    apply List.mem_of_getElem? (i := index)
    rw [callers_eq found, permitted]
    rfl
  have nonempty := Pool.Shared.users_ne_nil_of_permitted conserved member
  simpa [shared, Pool.byId] using nonempty

theorem Accounted.step {event : Event} (accounted : system.Accounted)
    (pooled : system.Pooled virtualUserCount)
    (stepped : system.step lua web loadgeneratorId event = some next) : next.Accounted := by
  constructor
  · intro index task found
    cases changed_of_step pooled stepped found with
    | dispatched started => exact ⟨rfl, rfl, rfl, rfl⟩
    | kept before other => exact accounted.tasks index task before
    | own before own => exact accounted_ownStep (accounted.tasks index _ before) own
    | pooled before move =>
        exact accounted_poolMove (accounted.tasks index _ before) accounted.users
          (fun _ permitted => users_ne_nil pooled before permitted) move
    | handed before queued => exact accounted_hand (accounted.tasks index _ before) queued
  · intro user member
    rcases users_of_step stepped member with old | ⟨index, task, after, found, releasing⟩
    · exact accounted.users user old
    · have trace := accounted.tasks index task found
      unfold Task.Accounted at trace
      rw [releasing] at trace
      cases after with
      | drop code => exact trace.1
      | log result =>
          rcases trace with ⟨-, -, -, -, fit, -⟩
          exact fit

theorem accounted_of_initial
    (initial : (machine lua web loadgeneratorId virtualUserCount).initial system) :
    system.Accounted := by
  rcases initial with ⟨⟨Failure, setup, isSetUp, built⟩, -, noTasks, -⟩
  constructor
  · intro index task found
    rw [noTasks] at found
    cases found
  · intro user member
    rcases Pool.exists_setup_of_mem (Pool.withClientAndRng_eq_ok built).1 member with ⟨id, ready⟩
    exact (isSetUp id user ready).wellFormed

theorem accounted_of_reachable
    (reachable : (machine lua web loadgeneratorId virtualUserCount).Reachable system) :
    system.Accounted := by
  apply Machine.ReachableBy.invariant_of_known (fun _ reached => pooled_of_reachable reached)
    (fun _ initial => accounted_of_initial initial) _ reachable
  intro system event next pooled accounted _ stepped
  rcases Option.map_eq_some_iff.mp stepped with ⟨moved, step, rfl⟩
  have kept := accounted.step pooled step
  unfold observe
  split_ifs
  · exact ⟨kept.tasks, kept.users⟩
  · exact kept

end System

/-- Only the last step logs. -/
theorem Task.Accounted.noLog {task : Task World Url Jar} (accounted : task.Accounted)
    (unfinished : task.stage ≠ .finished) : task.trace.logged = [] := by
  unfold Task.Accounted at accounted
  revert accounted
  cases stageEq : task.stage with
  | finished => exact absurd stageEq unfinished
  | panicked lost => exact False.elim
  | dropping code =>
      rintro (has | ⟨user, has⟩)
      · exact has.logged
      · exact has.logged
  | logging result => exact And.left
  | awaited user | ready user => exact fun trace => trace.2.logged
  | resolved | located | measuring => exact fun ⟨_, _, _, has⟩ => has.logged
  | sending | received | measured => exact fun ⟨_, _, _, _, has, _⟩ => has.logged
  | concluded => exact fun ⟨_, _, _, has, _⟩ => has.logged
  | releasing user after =>
      cases after with
      | drop code => exact fun trace => trace.2.logged
      | log result => exact fun ⟨_, _, _, has, _⟩ => has.logged
  | pushed after =>
      cases after with
      | drop code => exact fun ⟨_, has⟩ => has.logged
      | log result => exact fun ⟨_, _, _, has, _⟩ => has.logged
  | _ => exact fun has => has.logged

/-! ## Progress -/

/-- An upper bound on the steps that a task has before it. -/
def Stage.rank : Stage World Url Jar → Nat
  | .spawned => 19
  | .onSchedule => 18
  | .tried => 17
  | .queued => 16
  | .assigned => 15
  | .permitted _ => 14
  | .awaited _ => 13
  | .ready _ => 12
  | .resolved _ => 11
  | .located .. => 10
  | .measuring .. => 9
  | .sending .. => 8
  | .received .. => 7
  | .measured .. => 6
  | .concluded .. => 5
  | .releasing .. => 4
  | .pushed _ => 3
  | .dropping _ => 2
  | .logging _ => 1
  | .finished | .panicked _ => 0

theorem rank_ownStep {lua : Lua World} {web : WebLibrary Url Jar} {now : Instant}
    {task task' : Task World Url Jar} {stage : Stage World Url Jar} {event : TaskEvent}
    (stepped : ownStep lua web now task stage event = some task') :
    task'.stage.rank < stage.rank := by
  revert stepped
  fun_cases ownStep lua web now task stage event <;> intro stepped <;> cases stepped
  all_goals simp [Task.enter, Task.conclude, Stage.rank]

theorem rank_hand {task : Task World Url Jar} {now : Instant}
    (queued : task.stage = .queued) : (task.hand now).stage.rank < task.stage.rank := by
  simp [queued, Task.hand, Stage.rank]

theorem rank_poolMove {system : System World Url Jar} {task task' : Task World Url Jar}
    (move : PoolMove system task task') : task'.stage.rank < task.stage.rank := by
  cases move with
  | claim stageEq => simp [stageEq, Task.hand, Stage.rank]
  | timeOut waiting late =>
      rcases waiting with stageEq | stageEq <;> simp [stageEq, Task.enter, Stage.rank]
  | @takeUser waited user stageEq member =>
      cases waited <;> simp [stageEq, Task.enter, Stage.rank]
  | takePermit stageEq | miss stageEq | wait stageEq | resume stageEq | panic stageEq
  | push stageEq | drop stageEq | log stageEq => simp [stageEq, Task.enter, Stage.rank]

/-- Every call of the script's functions returns. -/
def CallsReturn (lua : Lua World) : Prop :=
  ∀ runner : ScriptRunner World, ∃ calls, runner.nextUserSpec lua calls ≠ .unfinished

namespace System

variable {system next : System World Url Jar} {lua : Lua World} {web : WebLibrary Url Jar}
variable {loadgeneratorId : LoadGeneratorId} {virtualUserCount : UInt32}

/-- The task can take a step, if only some time passes. -/
def CanProceed (lua : Lua World) (web : WebLibrary Url Jar) (loadgeneratorId : LoadGeneratorId)
    (system : System World Url Jar) (index : Nat) : Prop :=
  ∃ elapsed event, ({ system with now := system.now + elapsed }.step lua web loadgeneratorId
    (.task index event)).isSome

theorem canProceed_of {index : Nat} {task : Task World Url Jar}
    (found : system.tasks[index]? = some task) (elapsed : Duration) (event : TaskEvent)
    (able : (ownStep lua web (system.now + elapsed) task task.stage event).isSome ∨
      (poolStep { system with now := system.now + elapsed } index task task.stage
        event).isSome) :
    system.CanProceed lua web loadgeneratorId index := by
  refine ⟨elapsed, event, ?_⟩
  simp only [System.step, found, Option.bind_eq_bind, Option.bind_some]
  cases own : ownStep lua web (system.now + elapsed) task task.stage event with
  | some task' => rfl
  | none =>
      rw [own] at able
      rcases able with impossible | able
      · cases impossible
      · exact able

/-- Every task that has not logged its result can proceed. -/
theorem canProceed (returns : CallsReturn lua) (accounted : system.Accounted) {index : Nat}
    {task : Task World Url Jar} (found : system.tasks[index]? = some task)
    (unfinished : task.stage ≠ .finished) :
    system.CanProceed lua web loadgeneratorId index := by
  have trace := accounted.tasks index task found
  unfold Task.Accounted at trace
  have proceed := @canProceed_of World Url Jar system lua web loadgeneratorId index task found
  cases stageEq : task.stage with
  | finished => exact absurd stageEq unfinished
  | panicked lost =>
      rw [stageEq] at trace
      exact trace.elim
  | ready user =>
      rcases returns user.runner with ⟨calls, returned⟩
      apply proceed 0 (.nextUserSpec calls)
      left
      rw [stageEq, ownStep]
      split
      · next notReturned => exact absurd notReturned returned
      all_goals rfl
  | spawned | awaited =>
      apply proceed 0 .checkDeadline
      left
      rw [stageEq, ownStep]
      split_ifs <;> rfl
  | resolved attempt =>
      apply proceed 0 .resolveUrl
      left
      rw [stageEq, ownStep]
      split <;> rfl
  | located attempt url =>
      apply proceed 0 .measure
      simp [stageEq, ownStep]
  | measuring attempt url sentAt =>
      apply proceed 0 .send
      simp [stageEq, ownStep]
  | sending attempt url sentAt =>
      apply proceed 0 (.receive (.error (.failed "")))
      simp [stageEq, ownStep]
  | received attempt sentAt response =>
      apply proceed 0 .finish
      simp [stageEq, ownStep]
  | measured attempt response timing =>
      apply proceed 0 .judge
      simp [stageEq, ownStep]
  | concluded | dropping =>
      apply proceed 0 .convert
      simp [stageEq, ownStep]
  | logging result =>
      apply proceed 0 .logResult
      simp [stageEq, ownStep]
  | onSchedule =>
      apply proceed 0 .tryAcquire
      right
      rw [stageEq, poolStep]
      split <;> rfl
  | tried =>
      apply proceed 0 .acquire
      right
      rw [stageEq, poolStep]
      split <;> rfl
  | queued =>
      -- The timer ends a wait, whoever else holds the users.
      apply proceed task.deadline .timeOut
      right
      rw [stageEq, poolStep, if_pos (Nat.le_add_left _ _)]
      rfl
  | assigned =>
      apply proceed 0 .resume
      simp [stageEq, poolStep]
  | permitted waited =>
      apply proceed 0 (.takeRandomUser 0)
      right
      rw [stageEq, poolStep]
      split <;> rfl
  | releasing user after =>
      apply proceed 0 .push
      simp [stageEq, poolStep]
  | pushed after =>
      apply proceed 0 .addPermits
      cases after <;> simp [stageEq, poolStep]

/-- A step of a task brings the task nearer to its end, and no step of another one
takes it back. -/
theorem rank_step {event : Event} (pooled : system.Pooled virtualUserCount)
    (stepped : system.step lua web loadgeneratorId event = some next) {index : Nat}
    {before after : Task World Url Jar} (beforeEq : system.tasks[index]? = some before)
    (afterEq : next.tasks[index]? = some after) :
    after.stage.rank ≤ before.stage.rank ∧
      ∀ taskEvent, event = .task index taskEvent → after.stage.rank < before.stage.rank := by
  have same : ∀ {task : Task World Url Jar}, system.tasks[index]? = some task → task = before :=
    fun found => Option.some.inj (found.symm.trans beforeEq)
  have less : after.stage.rank < before.stage.rank → after.stage.rank ≤ before.stage.rank ∧
      ∀ taskEvent, event = .task index taskEvent → after.stage.rank < before.stage.rank :=
    fun lower => ⟨lower.le, fun _ _ => lower⟩
  cases changed_of_step pooled stepped afterEq with
  | dispatched started new =>
      rw [beforeEq] at new
      cases new
  | kept found other =>
      rw [same found]
      exact ⟨le_rfl, fun taskEvent isOwn => absurd isOwn (other taskEvent)⟩
  | own found own =>
      rw [same found] at own
      exact less (rank_ownStep own)
  | pooled found move =>
      rw [same found] at move
      exact less (rank_poolMove move)
  | handed found queued =>
      have lower := @rank_hand _ _ _ _ system.now queued
      rw [same found] at lower ⊢
      exact less lower

/-- Every task ends with one result, which describes what it has done; before, it has
logged none and can proceed to its end, while nobody takes it back. -/
theorem results_describe_sends
    (reachable : (machine lua web loadgeneratorId virtualUserCount).Reachable system)
    {index : Nat} {task : Task World Url Jar} (found : system.tasks[index]? = some task) :
    (task.stage = .finished → ∃ result, task.trace.logged = [result] ∧
      Describes task.transaction task.trace result) ∧
    (task.stage ≠ .finished → task.trace.logged = [] ∧
      (CallsReturn lua → system.CanProceed lua web loadgeneratorId index)) ∧
    ∀ event next after, system.step lua web loadgeneratorId event = some next →
      next.tasks[index]? = some after → after.stage.rank ≤ task.stage.rank ∧
        ∀ taskEvent, event = .task index taskEvent → after.stage.rank < task.stage.rank := by
  have accounted := accounted_of_reachable reachable
  have pooled := pooled_of_reachable reachable
  have trace := accounted.tasks index task found
  refine ⟨fun finished => ?_, fun unfinished => ⟨?_, ?_⟩, fun event next after stepped afterEq =>
    rank_step pooled stepped found afterEq⟩
  · unfold Task.Accounted at trace
    rw [finished] at trace
    exact trace
  · exact trace.noLog unfinished
  · intro returns
    exact canProceed returns accounted found unfinished

end System

/-! ## One virtual user -/

namespace OneUser

def lua : Lua Unit where
  call _ world := (.ok (.other "nil" 0), world)
  callExtract _ _ world := (.ok (), world)
  parseStaticSpec _ _ := .error "not a table"
  debug value _ := value.typeName

def web : WebLibrary String Unit where
  parse base _ := .ok base
  setPath url path := url ++ path
  asStr url := url
  cookie _ _ := none
  storeCookies jar _ _ := jar

def spec : HttpStaticRequestSpec where
  method := .get
  service := "shop"
  path := "/cart"
  headers := []
  query := []
  body := none
  extract := none

def userSpecs : List LuaRequestSpec := [⟨none, .static (.http spec)⟩]

def user (id : VirtualUserId) : VirtualUser Unit Unit where
  id := id
  runner :=
    { world := ()
      setupSpecs := []
      setupSpecsByName := Script.specsByName []
      setupCursor := 0
      userSpecs := userSpecs
      userSpecsByName := Script.specsByName userSpecs
      userCursor := 0 }
  jar := ()
  serviceRegistry := ⟨.ofEntries [("shop", "http://shop")]⟩

def start : System Unit String Unit where
  now := 0
  pool := ⟨[user ⟨0⟩], 1⟩
  waiters := []
  tasks := []
  free := [(0, 0)]

abbrev machine : Machine (System Unit String Unit) System.Event := System.machine lua web ⟨0⟩ 1

theorem initial : machine.initial start := by
  refine ⟨⟨Empty, fun id => .ok (user id), ?_, rfl⟩, rfl, rfl, rfl⟩
  rintro id _ ⟨⟩
  exact ⟨rfl, [], userSpecs, (), _, rfl, rfl⟩

/-- A transaction that is due at `instant`. -/
def dispatch (instant : Instant) : System.Event :=
  .dispatch ⟨⟨instant⟩, ⟨instant⟩⟩ ⟨Duration.fromSecs 1⟩

/-- The stage of the task `index` and the results it has logged. -/
def logged (index : Nat) (results : List TransactionResult → Bool)
    (system : System Unit String Unit) : Bool :=
  (system.tasks[index]?).any fun task =>
    (match task.stage with | .finished => true | _ => false) && results task.trace.logged

end OneUser

/-- The task of a transaction that succeeds after 3 ms. -/
theorem results_describe_sends_success :
    ∃ system : System Unit String Unit, ∃ task, system.tasks[0]? = some task ∧
      ∃ result, task.trace.logged = [result] ∧ result.isSuccess ∧
        Describes task.transaction task.trace result := by
  have ⟨system, reachable, ended⟩ := OneUser.machine.exists_reachable_of_exec OneUser.initial
    [OneUser.dispatch 0, .task 0 .checkDeadline, .task 0 .tryAcquire,
      .task 0 (.takeRandomUser 0), .task 0 (.nextUserSpec 0), .task 0 .resolveUrl,
      .task 0 .measure, .task 0 .send, .tick 3000000,
      .task 0 (.receive (.ok ⟨200, [], none⟩)), .task 0 .finish, .task 0 .judge,
      .task 0 .convert, .task 0 .push, .task 0 .addPermits, .task 0 .logResult]
    (OneUser.logged 0 fun results => results.all (·.isSuccess)) (by decide)
  rcases Option.any_eq_true _ _ |>.mp ended with ⟨task, found, checked⟩
  have finished : task.stage = .finished := by
    cases stageEq : task.stage <;> simp [stageEq] at checked ⊢
  rcases (System.results_describe_sends reachable found).1 finished with
    ⟨result, logged, describes⟩
  refine ⟨system, task, found, result, logged, ?_, describes⟩
  simpa [finished, logged] using checked

end Dispatch

end CreoBench
