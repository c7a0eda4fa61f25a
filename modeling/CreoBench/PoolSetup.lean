import CreoBench.Pool
import CreoBench.ScriptLoading
import CreoBench.ScriptWalk

/-!
# Setting up the pool

Every virtual user is set up in a task of its own, which loads the script and executes the
setup requests.  The tasks come from a lazy iterator: the loop that awaits them spawns the
next one when the one before it has ended, so that the virtual users are set up one after
another, in the order of their ids.
-/

namespace CreoBench

open Script

/-- Why a virtual user is not set up. -/
inductive UserError where
  | runnerSetup (source : ScriptRunner.SetupError)
  | setupSpec (source : Script.Error)
  | url (source : UrlError)
  | http (source : RequestError)
  | status (code : UInt16)
  | extract (id : SpecId) (source : Script.Error)
  deriving DecidableEq

def failSetupWith (id : SpecId) : HttpExecuteError → UserError
  | .url source => .url source
  | .timeout message _ => .http (.timeout message)
  | .failed message _ => .http (.failed message)
  | .status code _ => .status code
  | .extract source _ => .extract id source

namespace PoolSetup

/-- Where the task of a virtual user stands between two steps. -/
inductive Stage (World Url Jar : Type) where
  /-- Before `VirtualUser::new`. -/
  | spawned
  | looping (user : VirtualUser World Jar)
  | taken (user : VirtualUser World Jar) (specId : SpecId) (spec : HttpStaticRequestSpec)
  | located (user : VirtualUser World Jar) (specId : SpecId) (spec : HttpStaticRequestSpec)
      (url : Url)
  | sending (user : VirtualUser World Jar) (specId : SpecId) (spec : HttpStaticRequestSpec)
      (url : Url) (sentAt : Instant)
  | received (user : VirtualUser World Jar) (specId : SpecId) (spec : HttpStaticRequestSpec)
      (sentAt : Instant) (response : Except RequestError HttpResponse)
  | ended (result : Except UserError (VirtualUser World Jar))
  | panicked

/-- A task with the requests that it has sent. -/
structure Task (World Url Jar : Type) where
  id : VirtualUserId
  stage : Stage World Url Jar
  sent : List (SpecId × HttpRequest)

inductive TaskEvent (World : Type) where
  /-- `new` starts with a runtime of its own. -/
  | new (fresh : World)
  | nextSetupSpec (calls : Nat)
  | resolveUrl
  | send (sentAt : Instant)
  | receive (response : Except RequestError HttpResponse)
  | finish (finishedAt : Instant)

/-- What all tasks are started with. -/
structure Setting (World Url Jar : Type) where
  host : ScriptHost World
  lua : Lua World
  web : WebLibrary Url Jar
  newJar : Jar
  serviceRegistry : ServiceRegistry

section Steps

variable {World Url Jar : Type} (setting : Setting World Url Jar)

def Task.enter (task : Task World Url Jar) (stage : Stage World Url Jar) : Task World Url Jar :=
  { task with stage }

/-- The rest of a round, once the response has been judged. -/
def Task.conclude (task : Task World Url Jar) (specId : SpecId)
    (executed : Except HttpExecuteError RequestTiming × VirtualUser World Jar) :
    Task World Url Jar :=
  match executed.1 with
  | .ok _ => task.enter (.looping executed.2)
  | .error err => task.enter (.ended (.error (failSetupWith specId err)))

def taskStep (task : Task World Url Jar) :
    Stage World Url Jar → TaskEvent World → Option (Task World Url Jar)
  | .spawned, .new fresh =>
      match ScriptRunner.setup setting.host fresh with
      | .error source => some (task.enter (.ended (.error (.runnerSetup source))))
      | .ok runner =>
          some (task.enter (.looping
            ⟨task.id, runner, setting.newJar, setting.serviceRegistry⟩))
  | .looping user, .nextSetupSpec calls =>
      match user.runner.nextSetupSpec setting.lua calls with
      | .unfinished => none
      | .panicked => some (task.enter .panicked)
      | .returned (.error source, _) => some (task.enter (.ended (.error (.setupSpec source))))
      | .returned (.ok none, runner) => some (task.enter (.ended (.ok { user with runner })))
      | .returned (.ok (some (specId, .http spec)), runner) =>
          some (task.enter (.taken { user with runner } specId spec))
  | .taken user specId spec, .resolveUrl =>
      match VirtualUser.resolveUrl setting.web spec user.serviceRegistry with
      | .ok url => some (task.enter (.located user specId spec url))
      | .error source => some (task.conclude specId (.error (.url source), user))
  | .located user specId spec url, .send sentAt =>
      some { task with
        stage := .sending user specId spec url sentAt
        sent := task.sent ++ [(specId, user.request setting.web url spec)] }
  | .sending user specId spec url sentAt, .receive response =>
      some (task.enter (.received (user.storeCookies setting.web url response) specId spec sentAt
        response))
  | .received user specId spec sentAt response, .finish finishedAt =>
      some (task.conclude specId
        (user.judge setting.lua spec response ⟨sentAt, ⟨finishedAt - sentAt⟩⟩))
  | _, _ => none

end Steps

/-- `virtual_user::pool::Error`, as far as setting up virtual users goes. -/
inductive Error where
  | virtualUserSetup (id : VirtualUserId) (source : UserError)
  deriving DecidableEq

end PoolSetup

/-- `with_client_and_rng`: the ids that the iterator has not reached, the tasks that it has
spawned, the users of those that were awaited, and all requests in the order in which they
were sent. -/
structure PoolSetup (World Url Jar : Type) where
  pending : List VirtualUserId
  tasks : List (PoolSetup.Task World Url Jar)
  users : List (VirtualUser World Jar)
  returned : Option (Except PoolSetup.Error (Pool (VirtualUser World Jar)))
  sends : List (VirtualUserId × SpecId × HttpRequest)

namespace PoolSetup

variable {World Url Jar : Type}

inductive Event (World : Type) where
  /-- The loop asks the iterator for its next task. -/
  | next
  /-- The task that is awaited has ended. -/
  | join
  | task (index : Nat) (event : TaskEvent World)

/-- What a step of a task adds to its requests. -/
def newSends (before after : Task World Url Jar) : List (VirtualUserId × SpecId × HttpRequest) :=
  (after.sent.drop before.sent.length).map (before.id, ·)

def step (setting : Setting World Url Jar) (setup : PoolSetup World Url Jar) :
    Event World → Option (PoolSetup World Url Jar)
  | .next =>
      if setup.returned.isNone ∧ setup.users.length = setup.tasks.length then
        match setup.pending with
        | id :: pending =>
            some { setup with pending, tasks := setup.tasks ++ [⟨id, .spawned, []⟩] }
        | [] => some { setup with returned := some (.ok ⟨setup.users, setup.users.length⟩) }
      else none
  | .join =>
      if setup.returned.isNone then
        match setup.tasks[setup.users.length]? with
        | some ⟨_, .ended (.ok user), _⟩ => some { setup with users := setup.users ++ [user] }
        | some ⟨id, .ended (.error source), _⟩ =>
            some { setup with returned := some (.error (.virtualUserSetup id source)) }
        | _ => none
      else none
  | .task index event => do
      let task ← setup.tasks[index]?
      let task' ← taskStep setting task task.stage event
      return { setup with
        tasks := setup.tasks.set index task'
        sends := setup.sends ++ newSends task task' }

def machine (setting : Setting World Url Jar) (virtualUserCount : UInt32) :
    Machine (PoolSetup World Url Jar) (Event World) where
  initial setup := setup = ⟨Pool.userIds virtualUserCount, [], [], none, []⟩
  step := step setting

/-! ## The setup of one user -/

section Sessions

variable (setting : Setting World Url Jar)

/-- A virtual user that `new` returns. -/
structure IsNew (id : VirtualUserId) (user : VirtualUser World Jar) : Prop where
  id : user.id = id
  runner : ∃ fresh, ScriptRunner.setup setting.host fresh = .ok user.runner
  jar : user.jar = setting.newJar
  serviceRegistry : user.serviceRegistry = setting.serviceRegistry

/-- The request of a spec, if its URL is resolved. -/
def requestOf (user : VirtualUser World Jar) (specId : SpecId) (spec : HttpStaticRequestSpec) :
    Option (SpecId × HttpRequest) :=
  match VirtualUser.resolveUrl setting.web spec user.serviceRegistry with
  | .ok url => some (specId, user.request setting.web url spec)
  | .error _ => none

/-- `next_setup_spec` returns a spec and leaves `after` behind. -/
def Takes (before : VirtualUser World Jar) (specId : SpecId) (spec : HttpStaticRequestSpec)
    (after : VirtualUser World Jar) : Prop :=
  ∃ calls runner, before.runner.nextSetupSpec setting.lua calls =
      .returned (.ok (some (specId, .http spec)), runner) ∧ after = { before with runner }

/-- The setup requests of a virtual user so far, all of which have succeeded. -/
inductive Session (id : VirtualUserId) :
    List (SpecId × HttpRequest) → VirtualUser World Jar → Prop
  | new {user : VirtualUser World Jar} : IsNew setting id user → Session id [] user
  | round {requests : List (SpecId × HttpRequest)} {before user after : VirtualUser World Jar}
      {specId : SpecId} {spec : HttpStaticRequestSpec} {exchange : Exchange}
      {timing : RequestTiming} :
      Session id requests before → Takes setting before specId spec user →
      user.execute setting.lua setting.web spec exchange = (.ok timing, after) →
        Session id (requests ++ (requestOf setting user specId spec).toList) after

/-- The setup requests of a virtual user whose setup fails. -/
inductive Failure (id : VirtualUserId) : List (SpecId × HttpRequest) → UserError → Prop
  | runnerSetup {fresh : World} {source : ScriptRunner.SetupError} :
      ScriptRunner.setup setting.host fresh = .error source →
        Failure id [] (.runnerSetup source)
  | setupSpec {requests : List (SpecId × HttpRequest)} {user : VirtualUser World Jar}
      {calls : Nat} {source : Script.Error} {runner : ScriptRunner World} :
      Session setting id requests user →
      user.runner.nextSetupSpec setting.lua calls = .returned (.error source, runner) →
        Failure id requests (.setupSpec source)
  | request {requests : List (SpecId × HttpRequest)} {before user after : VirtualUser World Jar}
      {specId : SpecId} {spec : HttpStaticRequestSpec} {exchange : Exchange}
      {err : HttpExecuteError} :
      Session setting id requests before → Takes setting before specId spec user →
      user.execute setting.lua setting.web spec exchange = (.error err, after) →
        Failure id (requests ++ (requestOf setting user specId spec).toList)
          (failSetupWith specId err)

/-- The setup requests of a virtual user that is set up. -/
def Completes (id : VirtualUserId) (requests : List (SpecId × HttpRequest))
    (user : VirtualUser World Jar) : Prop :=
  Session setting id requests user ∧
    ∃ calls, user.runner.nextSetupSpec setting.lua calls = .returned (.ok none, user.runner)

/-- The requests that belong to a stage. -/
def Sound (id : VirtualUserId) (sent : List (SpecId × HttpRequest)) :
    Stage World Url Jar → Prop
  | .spawned => sent = []
  | .looping user => Session setting id sent user
  | .taken user specId spec =>
      ∃ before, Session setting id sent before ∧ Takes setting before specId spec user
  | .located user specId spec url => ∃ before, Session setting id sent before ∧
      Takes setting before specId spec user ∧
        VirtualUser.resolveUrl setting.web spec user.serviceRegistry = .ok url
  | .sending user specId spec url _ => ∃ before requests, Session setting id requests before ∧
      Takes setting before specId spec user ∧
        VirtualUser.resolveUrl setting.web spec user.serviceRegistry = .ok url ∧
          sent = requests ++ (requestOf setting user specId spec).toList
  | .received user specId spec _ response => ∃ before requests start url,
      Session setting id requests before ∧ Takes setting before specId spec start ∧
        VirtualUser.resolveUrl setting.web spec start.serviceRegistry = .ok url ∧
          sent = requests ++ (requestOf setting start specId spec).toList ∧
            user = start.storeCookies setting.web url response
  | .ended (.ok user) => Completes setting id sent user
  | .ended (.error err) => Failure setting id sent err
  | .panicked => False

end Sessions

variable {setting : Setting World Url Jar} {id : VirtualUserId}
variable {requests : List (SpecId × HttpRequest)} {user : VirtualUser World Jar}

theorem nextSetupSpec_frame {lua : Lua World} {runner after : ScriptRunner World} {calls : Nat}
    {result : Except Script.Error (Option (SpecId × RequestSpec))}
    (returned : runner.nextSetupSpec lua calls = .returned (result, after)) :
    (∃ world setupCursor, after = { runner with world, setupCursor }) ∧
      (result = .ok none → after = runner ∧ runner.setupSpecs.length ≤ runner.setupCursor) := by
  unfold ScriptRunner.nextSetupSpec at returned
  split_ifs at returned with exhausted
  · cases returned
    refine ⟨⟨runner.world, runner.setupCursor, rfl⟩, fun _ => ⟨rfl, ?_⟩⟩
    rcases exhausted with empty | behind
    · rw [List.isEmpty_iff.mp empty]
      exact Nat.zero_le _
    · exact behind
  · cases resolved : nextSpec lua runner.setupSpecs runner.setupSpecsByName calls
        runner.setupCursor runner.world with
    | panicked | unfinished =>
        rw [resolved] at returned
        cases returned
    | returned answer =>
        rw [resolved] at returned
        rcases answer with ⟨_ | ⟨index, spec⟩, world⟩
        · cases returned
          exact ⟨⟨world, runner.setupCursor, rfl⟩, by simp⟩
        · cases returned
          exact ⟨⟨world, index + 1, rfl⟩, by simp⟩

/-- Lua code may have run, which leaves the specs and the cursors alone. -/
theorem judge_frame (lua : Lua World) (user : VirtualUser World Jar)
    (spec : HttpStaticRequestSpec) (response : Except RequestError HttpResponse)
    (timing : RequestTiming) : ∃ world, (user.judge lua spec response timing).2 =
      { user with runner := { user.runner with world } } := by
  have extracted : ∀ response, ∃ world, (user.runner.runHttpExtract lua spec response).2 =
      { user.runner with world } := by
    intro response
    unfold ScriptRunner.runHttpExtract
    cases spec.extract <;> exact ⟨_, rfl⟩
  fun_cases VirtualUser.judge lua user spec response timing
  case case1 | case2 | case3 => exact ⟨user.runner.world, rfl⟩
  case case4 response small scriptResponse source runner failed =>
    rcases extracted scriptResponse with ⟨world, runnerEq⟩
    rw [failed] at runnerEq
    exact ⟨world, congrArg ({ user with runner := · }) runnerEq⟩
  case case5 response small scriptResponse runner succeeded =>
    rcases extracted scriptResponse with ⟨world, runnerEq⟩
    rw [succeeded] at runnerEq
    exact ⟨world, congrArg ({ user with runner := · }) runnerEq⟩

theorem execute_frame (lua : Lua World) (web : WebLibrary Url Jar)
    (user : VirtualUser World Jar) (spec : HttpStaticRequestSpec) (exchange : Exchange) :
    ∃ world jar, (user.execute lua web spec exchange).2 =
      { user with runner := { user.runner with world }, jar } := by
  unfold VirtualUser.execute
  cases VirtualUser.resolveUrl web spec user.serviceRegistry with
  | error source => exact ⟨user.runner.world, user.jar, rfl⟩
  | ok url =>
      rcases judge_frame lua (user.storeCookies web url exchange.response) spec exchange.response
        ⟨exchange.sentAt, ⟨exchange.finishedAt - exchange.sentAt⟩⟩ with ⟨world, judged⟩
      refine ⟨world, (user.storeCookies web url exchange.response).jar, judged.trans ?_⟩
      cases exchange.response <;> rfl

/-- What the setup requests change of a virtual user. -/
def Advanced (first user : VirtualUser World Jar) : Prop :=
  ∃ world setupCursor jar,
    user = { first with runner := { first.runner with world, setupCursor }, jar }

theorem Session.advanced (session : Session setting id requests user) :
    ∃ first, IsNew setting id first ∧ Advanced first user := by
  induction session with
  | @new user isNew =>
      exact ⟨user, isNew, user.runner.world, user.runner.setupCursor, user.jar, rfl⟩
  | @round requests before user after specId spec exchange timing earlier takes executed ih =>
      rcases ih with ⟨first, isNew, world, cursor, jar, rfl⟩
      rcases takes with ⟨calls, runner, returned, rfl⟩
      rcases (nextSetupSpec_frame returned).1 with ⟨world', cursor', rfl⟩
      rcases execute_frame setting.lua setting.web _ spec exchange with ⟨world'', jar', after⟩
      rw [executed] at after
      exact ⟨first, isNew, world'', cursor', jar', after⟩

theorem IsNew.ofSpecs {first : VirtualUser World Jar} (isNew : IsNew setting id first) :
    ∃ setupSpecs userSpecs loaded,
      ScriptRunner.ofSpecs setupSpecs userSpecs loaded = some first.runner := by
  rcases isNew.runner with ⟨fresh, loaded⟩
  rcases ((ScriptRunner.setup_decides setting.host fresh).ok _).mp loaded with ⟨-, -, -, made⟩
  exact ⟨_, _, _, made⟩

/-- What the loop of user requests relies on. -/
theorem Session.isSetUp (session : Session setting id requests user) : user.IsSetUp id := by
  rcases session.advanced with ⟨first, isNew, world, cursor, jar, rfl⟩
  rcases isNew.ofSpecs with ⟨setupSpecs, userSpecs, loaded, made⟩
  exact ⟨isNew.id, setupSpecs, userSpecs, loaded, first.runner, made, rfl⟩

theorem Session.sound (session : Session setting id requests user) : user.runner.Sound := by
  rcases session.advanced with ⟨first, isNew, world, cursor, jar, rfl⟩
  rcases isNew.ofSpecs with ⟨setupSpecs, userSpecs, loaded, made⟩
  have sound := ScriptRunner.sound_of_ofSpecs made
  exact ⟨⟨sound.cursor, sound.byName⟩, sound.setupByName⟩

/-! ## Steps of a task -/

@[simp]
theorem Task.conclude_id (task : Task World Url Jar) (specId : SpecId)
    (executed : Except HttpExecuteError RequestTiming × VirtualUser World Jar) :
    (task.conclude specId executed).id = task.id := by
  rcases executed with ⟨_ | _, _⟩ <;> rfl

@[simp]
theorem Task.conclude_sent (task : Task World Url Jar) (specId : SpecId)
    (executed : Except HttpExecuteError RequestTiming × VirtualUser World Jar) :
    (task.conclude specId executed).sent = task.sent := by
  rcases executed with ⟨_ | _, _⟩ <;> rfl

theorem taskStep_id {task task' : Task World Url Jar} {stage : Stage World Url Jar}
    {event : TaskEvent World} (stepped : taskStep setting task stage event = some task') :
    task'.id = task.id := by
  revert stepped
  fun_cases PoolSetup.taskStep setting task stage event
  all_goals intro stepped
  all_goals cases stepped
  all_goals simp [Task.enter]

/-- Requests are only ever added. -/
theorem prefix_taskStep {task task' : Task World Url Jar} {stage : Stage World Url Jar}
    {event : TaskEvent World} (stepped : taskStep setting task stage event = some task') :
    task.sent <+: task'.sent := by
  revert stepped
  fun_cases PoolSetup.taskStep setting task stage event
  all_goals intro stepped
  all_goals cases stepped
  all_goals simp [Task.enter]

/-- A task that has ended stays as it is. -/
theorem taskStep_ended {task : Task World Url Jar} {event : TaskEvent World}
    {result : Except UserError (VirtualUser World Jar)} :
    taskStep setting task (.ended result) event = none := by
  cases event <;> rfl

/-- The end of a round. -/
theorem Sound.conclude {task : Task World Url Jar} {before : VirtualUser World Jar}
    {specId : SpecId} {spec : HttpStaticRequestSpec} (exchange : Exchange)
    (session : Session setting task.id requests before)
    (takes : Takes setting before specId spec user)
    (sent : task.sent = requests ++ (requestOf setting user specId spec).toList) :
    Sound setting task.id task.sent
      (task.conclude specId (user.execute setting.lua setting.web spec exchange)).stage := by
  rw [sent]
  cases executed : user.execute setting.lua setting.web spec exchange with
  | mk result after =>
      cases result with
      | error err => exact .request session takes executed
      | ok timing => exact .round session takes executed

theorem Sound.taskStep {task task' : Task World Url Jar} {event : TaskEvent World}
    (sound : Sound setting task.id task.sent task.stage)
    (stepped : taskStep setting task task.stage event = some task') :
    Sound setting task'.id task'.sent task'.stage := by
  rw [taskStep_id stepped]
  revert sound stepped
  generalize stageEq : task.stage = stage
  fun_cases PoolSetup.taskStep setting task stage event
  all_goals intro sound stepped
  all_goals cases stepped
  case case1 fresh source failed =>
    have noneSent : task.sent = [] := sound
    simp only [Task.enter, noneSent]
    exact Failure.runnerSetup failed
  case case2 fresh runner loaded =>
    have noneSent : task.sent = [] := sound
    simp only [Task.enter, noneSent]
    exact Session.new ⟨rfl, ⟨fresh, loaded⟩, rfl, rfl⟩
  case case4 user calls panicked =>
    have session : Session setting task.id task.sent user := sound
    rcases user.runner.nextSetupSpec_cases setting.lua calls session.sound with ⟨-, returned⟩ |
      ⟨-, unfinished | ⟨_, _, returned⟩ | ⟨_, _, _, _, returned⟩⟩
    · exact nomatch panicked.symm.trans returned
    · exact nomatch panicked.symm.trans unfinished
    · exact nomatch panicked.symm.trans returned
    · exact nomatch panicked.symm.trans returned
  case case5 user calls source runner failed => exact Failure.setupSpec sound failed
  case case6 user calls runner exhausted =>
    obtain rfl := ((nextSetupSpec_frame exhausted).2 rfl).1
    exact ⟨sound, calls, exhausted⟩
  case case7 user calls specId spec runner returned =>
    exact ⟨user, sound, calls, runner, returned, rfl⟩
  case case8 user specId spec url located =>
    rcases sound with ⟨before, session, takes⟩
    exact ⟨before, session, takes, located⟩
  case case9 user specId spec source unresolved =>
    rcases sound with ⟨before, session, takes⟩
    have concluded := Sound.conclude ⟨0, 0, .error (.failed ""), 0⟩ session takes
      (by simp [requestOf, unresolved])
    simp only [VirtualUser.execute, unresolved] at concluded
    rw [Task.conclude_sent]
    exact concluded
  case case10 user specId spec url sentAt =>
    rcases sound with ⟨before, session, takes, located⟩
    exact ⟨before, task.sent, session, takes, located, by simp [requestOf, located]⟩
  case case11 user specId spec url sentAt response =>
    rcases sound with ⟨before, requests, session, takes, located, sent⟩
    exact ⟨before, requests, user, url, session, takes, located, sent, rfl⟩
  case case12 user specId spec sentAt response finishedAt =>
    rcases sound with ⟨before, requests, start, url, session, takes, located, sent, rfl⟩
    have concluded := Sound.conclude ⟨0, sentAt, response, finishedAt⟩ session takes sent
    simp only [VirtualUser.execute, located] at concluded
    rw [Task.conclude_sent]
    exact concluded

/-! ## One user after another -/

def Task.sends (task : Task World Url Jar) : List (VirtualUserId × SpecId × HttpRequest) :=
  task.sent.map (task.id, ·)

theorem sends_append_newSends {task task' : Task World Url Jar} {event : TaskEvent World}
    (stepped : taskStep setting task task.stage event = some task') :
    task.sends ++ newSends task task' = task'.sends := by
  rcases prefix_taskStep stepped with ⟨added, sent⟩
  rw [Task.sends, Task.sends, newSends, taskStep_id stepped, ← sent, List.drop_left,
    List.map_append]

/-- The tasks that were awaited, and the one that may run now. -/
structure Orderly (setting : Setting World Url Jar) (virtualUserCount : UInt32)
    (setup : PoolSetup World Url Jar) (past : List (Task World Url Jar))
    (current : Option (Task World Url Jar)) : Prop where
  tasks : setup.tasks = past ++ current.toList
  ids : setup.tasks.map Task.id ++ setup.pending = Pool.userIds virtualUserCount
  users : List.Forall₂ (fun task user => task.stage = .ended (.ok user)) past setup.users
  sound : ∀ task ∈ setup.tasks, Sound setting task.id task.sent task.stage
  sends : setup.sends = setup.tasks.flatMap Task.sends
  ok : ∀ pool, setup.returned = some (.ok pool) →
    current = none ∧ setup.pending = [] ∧ pool = ⟨setup.users, setup.users.length⟩
  failed : ∀ id source, setup.returned = some (.error (.virtualUserSetup id source)) →
    ∃ task, current = some task ∧ task.id = id ∧ task.stage = .ended (.error source)

section

variable {virtualUserCount : UInt32} {setup after : PoolSetup World Url Jar}
variable {past : List (Task World Url Jar)} {current : Option (Task World Url Jar)}

theorem Orderly.length (orderly : Orderly setting virtualUserCount setup past current) :
    setup.tasks.length = setup.users.length + current.toList.length := by
  rw [orderly.tasks, List.length_append, orderly.users.length_eq]

/-- The task that the loop awaits. -/
theorem Orderly.awaited (orderly : Orderly setting virtualUserCount setup past current) :
    setup.tasks[setup.users.length]? = current := by
  rw [orderly.tasks, ← orderly.users.length_eq]
  cases current <;> simp

theorem Orderly.next (orderly : Orderly setting virtualUserCount setup past current)
    (stepped : step setting setup .next = some after) :
    Orderly setting virtualUserCount after past
      (setup.pending.head?.map fun id => ⟨id, .spawned, []⟩) := by
  simp only [step] at stepped
  split_ifs at stepped with awaiting
  rcases awaiting with ⟨running, joined⟩
  have noResult : setup.returned = none := Option.isNone_iff_eq_none.mp running
  have nobody : current = none := by
    have lengths := orderly.length
    cases current with
    | none => rfl
    | some task =>
        rw [joined, Option.toList_some, List.length_singleton] at lengths
        omega
  subst nobody
  have tasks : setup.tasks = past := by simpa using orderly.tasks
  rcases setup with ⟨pending, spawned, users, returned, sends⟩
  obtain rfl : spawned = past := tasks
  obtain rfl : returned = none := noResult
  cases pending with
  | nil =>
      cases stepped
      refine ⟨by simp, orderly.ids, orderly.users, orderly.sound, orderly.sends, ?_, ?_⟩
      · rintro pool ⟨⟩
        exact ⟨rfl, rfl, rfl⟩
      · rintro id source ⟨⟩
  | cons id pending =>
      cases stepped
      have ids := orderly.ids
      have sends := orderly.sends
      refine ⟨by simp, by simpa using ids, orderly.users, ?_, ?_, ?_, ?_⟩
      · intro task member
        rcases List.mem_append.mp member with old | new
        · exact orderly.sound task old
        · cases List.mem_singleton.mp new
          exact rfl
      · rw [List.flatMap_append, ← sends]
        exact (List.append_nil _).symm
      · rintro pool ⟨⟩
      · rintro id source ⟨⟩

theorem Orderly.join (orderly : Orderly setting virtualUserCount setup past current)
    (stepped : step setting setup .join = some after) :
    ∃ past current, Orderly setting virtualUserCount after past current := by
  simp only [step] at stepped
  split_ifs at stepped with running
  have noResult : setup.returned = none := Option.isNone_iff_eq_none.mp running
  rw [orderly.awaited] at stepped
  split at stepped
  · next id user sent =>
      cases stepped
      refine ⟨past ++ [⟨id, .ended (.ok user), sent⟩], none, ?_, orderly.ids, ?_, orderly.sound,
        orderly.sends, ?_, ?_⟩
      · rw [orderly.tasks]
        simp
      · exact List.rel_append orderly.users (.cons rfl .nil)
      · intro pool returned
        rw [noResult] at returned
        cases returned
      · intro id source returned
        rw [noResult] at returned
        cases returned
  · next id source sent =>
      cases stepped
      refine ⟨past, _, orderly.tasks, orderly.ids, orderly.users, orderly.sound, orderly.sends,
        ?_, ?_⟩
      · rintro pool ⟨⟩
      · rintro id' source' ⟨⟩
        exact ⟨_, rfl, rfl, rfl⟩
  · cases stepped

/-- The tasks that were awaited have ended, so that only the current one steps. -/
theorem Orderly.task {index : Nat} {event : TaskEvent World}
    (orderly : Orderly setting virtualUserCount setup past current)
    (stepped : step setting setup (.task index event) = some after) :
    ∃ current, Orderly setting virtualUserCount after past current := by
  simp only [step] at stepped
  obtain ⟨task, found, stepped⟩ := Option.bind_eq_some_iff.mp stepped
  obtain ⟨task', moved, stepped⟩ := Option.bind_eq_some_iff.mp stepped
  cases stepped
  have notEnded : ∀ result, task.stage ≠ .ended result := by
    intro result ended
    rw [ended, taskStep_ended] at moved
    cases moved
  -- the task is the one that the loop awaits
  obtain ⟨rfl, rfl⟩ : past.length = index ∧ current = some task := by
    rw [orderly.tasks] at found
    rcases Nat.lt_trichotomy index past.length with before | rfl | behind
    · rw [List.getElem?_append_left before, List.getElem?_eq_getElem before] at found
      have ended := orderly.users.get before (orderly.users.length_eq ▸ before)
      rw [List.get_eq_getElem, Option.some.inj found] at ended
      exact absurd ended (notEnded _)
    · rw [List.getElem?_append_right (Nat.le_refl _), Nat.sub_self] at found
      cases current with
      | none => cases found
      | some task' => exact ⟨rfl, found⟩
    · rw [List.getElem?_append_right behind.le] at found
      have inside := (List.getElem?_eq_some_iff.mp found).1
      have short : current.toList.length ≤ 1 := by cases current <;> simp
      omega
  have tasks : setup.tasks.set past.length task' = past ++ [task'] := by
    rw [orderly.tasks]
    simp
  have sends := orderly.sends
  rw [orderly.tasks] at sends
  refine ⟨some task', tasks, ?_, orderly.users, ?_, ?_, ?_, ?_⟩
  · rw [tasks, ← orderly.ids, orderly.tasks]
    simp [taskStep_id moved]
  · intro other member
    rw [tasks] at member
    rcases List.mem_append.mp member with old | new
    · exact orderly.sound other (orderly.tasks ▸ List.mem_append_left _ old)
    · cases List.mem_singleton.mp new
      exact (orderly.sound task (List.mem_of_getElem? found)).taskStep moved
  · rw [tasks, sends]
    simp [← sends_append_newSends moved]
  · intro pool returned
    exact nomatch (orderly.ok pool returned).1
  · intro id source returned
    rcases orderly.failed id source returned with ⟨other, same, -, ended⟩
    cases same
    exact absurd ended (notEnded _)

theorem orderly_of_reachable (reachable : (machine setting virtualUserCount).Reachable setup) :
    ∃ past current, Orderly setting virtualUserCount setup past current := by
  apply reachable.invariant
  · rintro setup rfl
    refine ⟨[], none, rfl, rfl, .nil, ?_, rfl, ?_, ?_⟩
    · rintro task ⟨⟩
    · rintro pool ⟨⟩
    · rintro id source ⟨⟩
  · rintro setup (_ | _ | ⟨index, event⟩) after ⟨past, current, orderly⟩ _ stepped
    · exact ⟨past, _, orderly.next stepped⟩
    · exact orderly.join stepped
    · exact ⟨past, orderly.task stepped⟩

/-- What is known of a pool's setup at any time: the requests are those of the virtual users
that were set up, one user after another, and those of the one that is being set up. -/
structure InOrder (setting : Setting World Url Jar) (virtualUserCount : UInt32)
    (setup : PoolSetup World Url Jar) (past : List (Task World Url Jar))
    (current : Option (Task World Url Jar)) : Prop where
  ids : (past ++ current.toList).map Task.id ++ setup.pending = Pool.userIds virtualUserCount
  sends : setup.sends = (past ++ current.toList).flatMap Task.sends
  completed : List.Forall₂ (fun task user => Completes setting task.id task.sent user) past
    setup.users
  running : ∀ task ∈ current, Sound setting task.id task.sent task.stage
  ok : ∀ pool, setup.returned = some (.ok pool) →
    current = none ∧ setup.pending = [] ∧ pool = ⟨setup.users, setup.users.length⟩
  failed : ∀ id source, setup.returned = some (.error (.virtualUserSetup id source)) →
    ∃ task, current = some task ∧ task.id = id ∧ Failure setting id task.sent source

theorem Orderly.inOrder (orderly : Orderly setting virtualUserCount setup past current) :
    InOrder setting virtualUserCount setup past current := by
  have sound := orderly.sound
  have ids := orderly.ids
  have sends := orderly.sends
  rw [orderly.tasks] at sound ids sends
  refine ⟨ids, sends, ?_, ?_, orderly.ok, ?_⟩
  · have soundPast : ∀ task ∈ past, Sound setting task.id task.sent task.stage :=
      fun task member => sound task (List.mem_append_left _ member)
    refine (List.forall₂_and_left _ _ |>.mpr ⟨soundPast, orderly.users⟩).imp ?_
    rintro task user ⟨soundTask, ended⟩
    rw [ended] at soundTask
    exact soundTask
  · rintro task rfl
    exact sound task (List.mem_append_right _ (List.mem_singleton_self task))
  · intro id source returned
    rcases orderly.failed id source returned with ⟨task, rfl, rfl, ended⟩
    have soundTask := sound task (List.mem_append_right _ (List.mem_singleton_self task))
    rw [ended] at soundTask
    exact ⟨task, rfl, rfl, soundTask⟩

theorem InOrder.ids_of_users (inOrder : InOrder setting virtualUserCount setup past current) :
    setup.users.map VirtualUser.id = past.map Task.id := by
  have same : List.Forall₂ (· = ·) (setup.users.map VirtualUser.id) (past.map Task.id) := by
    rw [List.forall₂_map_left_iff, List.forall₂_map_right_iff]
    exact inOrder.completed.flip.imp fun _ _ completes => completes.1.isSetUp.1
  rwa [List.forall₂_eq_eq_eq] at same

/-- The virtual user of an id, as the setup found it. -/
def findUser (users : List (VirtualUser World Jar)) (id : VirtualUserId) :
    Except Unit (VirtualUser World Jar) :=
  match users.find? (·.id = id) with
  | some user => .ok user
  | none => .error ()

theorem setUpUsers_findUser {users wanted : List (VirtualUser World Jar)}
    (distinct : (users.map VirtualUser.id).Nodup) (among : ∀ user ∈ wanted, user ∈ users) :
    Pool.setUpUsers (findUser users) (wanted.map VirtualUser.id) = .ok wanted := by
  induction wanted with
  | nil => rfl
  | cons user rest ih =>
      have found : findUser users user.id = .ok user := by
        unfold findUser
        cases search : users.find? (·.id = user.id) with
        | none =>
            have missing := List.find?_eq_none.mp search user (among user (List.mem_cons_self ..))
            simp at missing
        | some other =>
            have same : other.id = user.id := by simpa using List.find?_some search
            rw [List.inj_on_of_nodup_map distinct (List.mem_of_find?_eq_some search)
              (among user (List.mem_cons_self ..)) same]
      rw [List.map_cons, Pool.setUpUsers, found,
        ih fun other member => among other (List.mem_cons_of_mem _ member)]
      rfl

/-- The pool that is returned is one that the dispatch of transactions starts from. -/
theorem InOrder.withClientAndRng {pool : Pool (VirtualUser World Jar)}
    (inOrder : InOrder setting virtualUserCount setup past current)
    (returned : setup.returned = some (.ok pool)) :
    (∀ id user, findUser setup.users id = .ok user → user.IsSetUp id) ∧
      Pool.withClientAndRng (findUser setup.users) virtualUserCount = .ok pool := by
  rcases inOrder.ok pool returned with ⟨rfl, nobody, rfl⟩
  have ids : setup.users.map VirtualUser.id = Pool.userIds virtualUserCount := by
    rw [inOrder.ids_of_users, ← inOrder.ids, nobody]
    simp
  constructor
  · intro id user found
    unfold findUser at found
    split at found
    · next other search =>
        cases found
        have same : user.id = id := by simpa using List.find?_some search
        rcases List.forall₂_iff_get.mp inOrder.completed with ⟨lengths, completed⟩
        rcases List.getElem_of_mem (List.mem_of_find?_eq_some search) with ⟨index, inside, rfl⟩
        have isSetUp := (completed index (lengths ▸ inside) inside).1.isSetUp
        rw [← same]
        exact ⟨rfl, isSetUp.2⟩
    · cases found
  · rw [Pool.withClientAndRng, ← ids, setUpUsers_findUser ?_ fun _ member => member]
    · rfl
    · rw [ids]
      exact Pool.nodup_userIds virtualUserCount

/-- The virtual users are set up one after another in the order of their ids, and the first
failure is the error that is returned; a pool that is returned is one that the dispatch of
transactions starts from. -/
theorem set_up_in_order (reachable : (machine setting virtualUserCount).Reachable setup) :
    (∃ past current, InOrder setting virtualUserCount setup past current) ∧
      ∀ pool, setup.returned = some (.ok pool) →
        ∃ (Failure : Type) (setUp : VirtualUserId → Except Failure (VirtualUser World Jar)),
          (∀ id user, setUp id = .ok user → user.IsSetUp id) ∧
            Pool.withClientAndRng setUp virtualUserCount = .ok pool := by
  rcases orderly_of_reachable reachable with ⟨past, current, orderly⟩
  refine ⟨⟨past, current, orderly.inOrder⟩, fun pool returned => ?_⟩
  exact ⟨Unit, findUser setup.users, orderly.inOrder.withClientAndRng returned⟩

end

namespace OneSpec

open CreoBench.Parser (PlainTable)

/-- A module both of whose functions return a table with one spec. -/
def runtime : Parser.Runtime :=
  { Parser.shop with
    contents := fun
      | ⟨3⟩ => ⟨[(.string (utf8Bytes "setup"), .function ⟨0⟩),
          (.string (utf8Bytes "requests"), .function ⟨1⟩)], by decide, by decide⟩
      | ⟨4⟩ => ⟨[(PlainTable.key 1, .table ⟨0⟩)], by decide, by decide⟩
      | table => Parser.shop.contents table }

def shop : Setting Unit String Unit where
  host :=
    { eval := fun world => (.ok (.table ⟨3⟩), world)
      call := fun _ world => (.ok (.table ⟨4⟩), world)
      runtime := fun _ => runtime }
  lua := Dispatch.OneUser.lua
  web := Dispatch.OneUser.web
  newJar := ()
  serviceRegistry := ⟨.ofEntries [("shop", "http://shop")]⟩

/-- The task `index` from its start up to its response. -/
def request (index : Nat) (status : UInt16) : List (Event Unit) :=
  [.next, .task index (.new ()), .task index (.nextSetupSpec 0), .task index .resolveUrl,
    .task index (.send 0), .task index (.receive (.ok ⟨status, [], none⟩)),
    .task index (.finish 1000)]

end OneSpec

/-- The second of three virtual users is refused, and the third one is not started. -/
theorem set_up_in_order_refused : ∃ setup : PoolSetup Unit String Unit,
    setup.pending = [⟨2⟩] ∧ setup.sends.map Prod.fst = [⟨0⟩, ⟨1⟩] ∧
      (∃ past current, InOrder OneSpec.shop 3 setup past current) := by
  have ⟨setup, reachable, checked⟩ := (machine OneSpec.shop 3).exists_reachable_of_exec rfl
    (OneSpec.request 0 200 ++ [.task 0 (.nextSetupSpec 0), .join] ++ OneSpec.request 1 500 ++
      [.join])
    (fun setup => decide (setup.pending = [⟨2⟩] ∧ setup.sends.map Prod.fst = [⟨0⟩, ⟨1⟩]))
    (by decide)
  rcases of_decide_eq_true checked with ⟨pending, sends⟩
  exact ⟨setup, pending, sends, (set_up_in_order reachable).1⟩

/-! ## Scripts with static setup specs -/

/-- The script has `specCount` setup specs, all of them static. -/
def StaticSetup (setting : Setting World Url Jar) (specCount : Nat) : Prop :=
  ∀ (fresh : World) (runner : ScriptRunner World),
    ScriptRunner.setup setting.host fresh = .ok runner →
      AllStatic runner.setupSpecs ∧ runner.setupSpecs.length = specCount

/-- The ids of `count` specs in their order. -/
def specIds (count : Nat) : List SpecId := (List.range count).map .ofIndex

theorem prefix_specIds {short long : Nat} (le : short ≤ long) : specIds short <+: specIds long := by
  rw [specIds, specIds, ← Nat.add_sub_cancel' le, List.range_add, List.map_append]
  exact List.prefix_append _ _

section

variable {specCount : Nat} {before : VirtualUser World Jar} {specId : SpecId}
variable {spec : HttpStaticRequestSpec}

theorem Session.specs (session : Session setting id requests user)
    (static : StaticSetup setting specCount) :
    AllStatic user.runner.setupSpecs ∧ user.runner.setupSpecs.length = specCount := by
  rcases session.advanced with ⟨first, isNew, world, cursor, jar, rfl⟩
  rcases isNew.runner with ⟨fresh, loaded⟩
  exact static fresh first.runner loaded

/-- The next static spec is the one at the cursor. -/
theorem Takes.static (takes : Takes setting before specId spec user)
    (static : AllStatic before.runner.setupSpecs) :
    before.runner.setupCursor < before.runner.setupSpecs.length ∧
      specId = .ofIndex before.runner.setupCursor ∧
        user.runner.setupCursor = before.runner.setupCursor + 1 := by
  rcases takes with ⟨calls, runner, returned, rfl⟩
  rw [ScriptRunner.nextSetupSpec_static setting.lua calls static] at returned
  by_cases inside : before.runner.setupCursor < before.runner.setupSpecs.length
  · rcases Script.nextSpec_static setting.lua before.runner.setupSpecsByName calls
      before.runner.world static inside with ⟨request, specEq, -⟩
    rw [specEq, if_pos inside] at returned
    cases returned
    exact ⟨inside, rfl, rfl⟩
  · rw [staticSpec_of_length_le (Nat.le_of_not_lt inside)] at returned
    cases returned

/-- Every spec up to the cursor has been sent once, in order. -/
theorem Session.specIds (session : Session setting id requests user)
    (static : StaticSetup setting specCount) :
    requests.map Prod.fst = PoolSetup.specIds user.runner.setupCursor ∧
      user.runner.setupCursor ≤ specCount := by
  induction session with
  | new isNew =>
      rcases isNew.runner with ⟨fresh, loaded⟩
      rcases isNew.ofSpecs with ⟨setupSpecs, userSpecs, loaded, made⟩
      unfold ScriptRunner.ofSpecs at made
      split_ifs at made with empty
      rw [← Option.some.inj made]
      exact ⟨rfl, Nat.zero_le _⟩
  | @round requests before user after specId spec exchange timing earlier takes executed ih =>
      rcases earlier.specs static with ⟨allStatic, length⟩
      rcases takes.static allStatic with ⟨inside, rfl, cursor⟩
      rcases execute_frame setting.lua setting.web user spec exchange with ⟨world, jar, after⟩
      rw [executed] at after
      obtain rfl := after
      have sent : (requestOf setting user (.ofIndex before.runner.setupCursor) spec).map Prod.fst =
          some (SpecId.ofIndex before.runner.setupCursor) := by
        unfold VirtualUser.execute at executed
        unfold requestOf
        cases located : VirtualUser.resolveUrl setting.web spec user.serviceRegistry with
        | error source =>
            rw [located] at executed
            cases executed
        | ok url => rfl
      refine ⟨?_, by simpa only [cursor] using length ▸ inside⟩
      rw [List.map_append, ih.1, ← Option.toList_map, sent]
      simp [PoolSetup.specIds, cursor, List.range_succ]

/-- The spec that is taken is the next one, whether or not it is sent. -/
theorem Session.specIds_round (session : Session setting id requests before)
    (takes : Takes setting before specId spec user) (static : StaticSetup setting specCount) :
    (requests ++ (requestOf setting user specId spec).toList).map Prod.fst <+:
      PoolSetup.specIds specCount := by
  rcases session.specs static with ⟨allStatic, length⟩
  rcases takes.static allStatic with ⟨inside, rfl, cursor⟩
  refine List.IsPrefix.trans ?_ (prefix_specIds (length ▸ inside))
  rw [List.map_append, (session.specIds static).1, PoolSetup.specIds, PoolSetup.specIds,
    List.range_succ, List.map_append, List.prefix_append_right_inj, requestOf]
  split <;> simp

theorem Session.prefix_specIds (session : Session setting id requests user)
    (static : StaticSetup setting specCount) :
    requests.map Prod.fst <+: PoolSetup.specIds specCount := by
  rw [(session.specIds static).1]
  exact PoolSetup.prefix_specIds (session.specIds static).2

theorem Completes.specIds (completes : Completes setting id requests user)
    (static : StaticSetup setting specCount) :
    requests.map Prod.fst = PoolSetup.specIds specCount := by
  rcases completes with ⟨session, calls, exhausted⟩
  have behind := ((nextSetupSpec_frame exhausted).2 rfl).2
  rw [(session.specs static).2] at behind
  rcases session.specIds static with ⟨sent, inside⟩
  rw [sent, Nat.le_antisymm inside behind]

theorem Sound.specIds {task : Task World Url Jar}
    (sound : Sound setting task.id task.sent task.stage)
    (static : StaticSetup setting specCount) :
    task.sent.map Prod.fst <+: PoolSetup.specIds specCount := by
  revert sound
  cases task.stage with
  | spawned =>
      intro noneSent
      rw [show task.sent = [] from noneSent]
      exact List.nil_prefix
  | looping user => exact fun session => Session.prefix_specIds session static
  | taken user specId spec => exact fun ⟨before, session, _⟩ => session.prefix_specIds static
  | located user specId spec url =>
      exact fun ⟨before, session, _⟩ => session.prefix_specIds static
  | sending user specId spec url sentAt =>
      rintro ⟨before, requests, session, takes, located, sent⟩
      rw [sent]
      exact session.specIds_round takes static
  | received user specId spec sentAt response =>
      rintro ⟨before, requests, start, url, session, takes, located, sent, same⟩
      rw [sent]
      exact session.specIds_round takes static
  | ended result =>
      cases result with
      | ok user => exact fun completes => Session.prefix_specIds completes.1 static
      | error source =>
          intro failure
          generalize task.sent = sent at failure
          cases failure with
          | runnerSetup failed => exact List.nil_prefix
          | setupSpec session failed => exact session.prefix_specIds static
          | request session takes executed => exact session.specIds_round takes static
  | panicked => exact False.elim

/-- Every virtual user with every setup spec. -/
def setupGrid (virtualUserCount : UInt32) (specCount : Nat) : List (VirtualUserId × SpecId) :=
  (Pool.userIds virtualUserCount).flatMap fun id => (PoolSetup.specIds specCount).map (id, ·)

theorem Task.sends_fst (task : Task World Url Jar) :
    task.sends.map (fun send => (send.1, send.2.1)) =
      (task.sent.map Prod.fst).map (task.id, ·) := by
  simp [Task.sends, Function.comp_def]

/-- A script with static setup specs sends each of them once for each virtual user, one after
another, until it fails. -/
theorem static_setup_sends {virtualUserCount : UInt32} {setup : PoolSetup World Url Jar}
    (static : StaticSetup setting specCount)
    (reachable : (machine setting virtualUserCount).Reachable setup) :
    setup.sends.map (fun send => (send.1, send.2.1)) <+: setupGrid virtualUserCount specCount ∧
      ∀ pool, setup.returned = some (.ok pool) →
        setup.sends.map (fun send => (send.1, send.2.1)) =
          setupGrid virtualUserCount specCount := by
  rcases orderly_of_reachable reachable with ⟨past, current, orderly⟩
  have inOrder := orderly.inOrder
  have rows : past.flatMap (fun task => task.sends.map fun send => (send.1, send.2.1)) =
      (past.map Task.id).flatMap fun id => (PoolSetup.specIds specCount).map (id, ·) := by
    rw [List.flatMap_map]
    apply List.flatMap_congr
    intro task member
    rcases List.getElem_of_mem member with ⟨index, inside, rfl⟩
    have completes := inOrder.completed.get inside (inOrder.completed.length_eq ▸ inside)
    rw [Task.sends_fst, ← completes.specIds static]
    rfl
  rw [inOrder.sends, List.map_flatMap, List.flatMap_append, rows, setupGrid, ← inOrder.ids,
    List.map_append, List.append_assoc, List.flatMap_append]
  constructor
  · rw [List.prefix_append_right_inj, List.flatMap_append]
    refine List.IsPrefix.trans ?_ (List.prefix_append _ _)
    cases current with
    | none => exact List.prefix_refl _
    | some task =>
        have sent := (inOrder.running task rfl).specIds static
        simpa [Task.sends_fst] using sent.map (task.id, ·)
  · intro pool returned
    rcases inOrder.ok pool returned with ⟨rfl, nobody, -⟩
    rw [nobody]
    simp

/-- Two virtual users with one spec. -/
theorem static_setup_sends_twoUsers : ∃ setup : PoolSetup Unit String Unit,
    setup.returned.isSome ∧ setup.sends.map (fun send => (send.1, send.2.1)) =
      [(⟨0⟩, ⟨0⟩), (⟨1⟩, ⟨0⟩)] ∧ setupGrid 2 1 = [(⟨0⟩, ⟨0⟩), (⟨1⟩, ⟨0⟩)] ∧
        setup.sends.map (fun send => (send.1, send.2.1)) <+: setupGrid 2 1 := by
  have static : StaticSetup OneSpec.shop 1 := by
    have loads : (ScriptRunner.setup OneSpec.shop.host ()).toOption.all fun runner =>
        runner.setupSpecs.all (·.staticRequest.isSome) && runner.setupSpecs.length == 1 := by
      decide
    intro fresh runner loaded
    rw [loaded] at loads
    simpa [AllStatic, Except.toOption] using loads
  have ⟨setup, reachable, checked⟩ := (machine OneSpec.shop 2).exists_reachable_of_exec rfl
    (OneSpec.request 0 200 ++ [.task 0 (.nextSetupSpec 0), .join] ++ OneSpec.request 1 200 ++
      [.task 1 (.nextSetupSpec 0), .join, .next])
    (fun setup => decide (setup.returned.isSome ∧
      setup.sends.map (fun send => (send.1, send.2.1)) = [(⟨0⟩, ⟨0⟩), (⟨1⟩, ⟨0⟩)]))
    (by decide)
  rcases of_decide_eq_true checked with ⟨returned, sends⟩
  exact ⟨setup, returned, sends, by decide, (static_setup_sends static reachable).1⟩

end

end PoolSetup

end CreoBench
