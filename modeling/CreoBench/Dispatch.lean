import CreoBench.Library.TransitionSystem
import CreoBench.Pool
import CreoBench.VirtualUser

/-!
# Dispatched transactions

Every dispatched transaction runs in a task of its own: it takes a virtual user
on schedule or is dropped, sends its request, releases the user and logs its
result.  The tasks share the pool, whose semaphore hands a permit to the task
that has waited longest, and a clock that moves between any two steps.  Each
task keeps a trace of what it has done, and the system one of the times at which
a permit lay unclaimed.
-/

namespace CreoBench

/-- How long after its scheduled arrival a request may still be sent. -/
@[irreducible]
def dropTolerance : Duration := Duration.fromMillis 10

namespace Dispatch

/-- What follows on a release: the transaction came too late, or has its result. -/
inductive AfterRelease where
  | drop (code : DroppedCode)
  | log (result : TransactionResult)
  deriving DecidableEq

/-- A virtual user on its way to send `spec`. -/
structure Attempt (World Jar : Type) where
  user : VirtualUser World Jar
  handle : RevertHandle
  specId : SpecId
  spec : HttpStaticRequestSpec

/-- Where a task stands between two steps. -/
inductive Stage (World Url Jar : Type) where
  | spawned
  /-- Not late when it first ran; `try_acquire` comes next. -/
  | onSchedule
  /-- `try_acquire` found no permit; `acquire` is polled next. -/
  | tried
  /-- In the semaphore's queue. -/
  | queued
  /-- The semaphore has handed over a permit that is not yet observed. -/
  | assigned
  | permitted (waited : Bool)
  /-- `acquire` has returned, and the deadline is checked again next. -/
  | awaited (user : VirtualUser World Jar)
  | ready (user : VirtualUser World Jar)
  | resolved (attempt : Attempt World Jar)
  | located (attempt : Attempt World Jar) (url : Url)
  | measuring (attempt : Attempt World Jar) (url : Url) (sentAt : Instant)
  | sending (attempt : Attempt World Jar) (url : Url) (sentAt : Instant)
  | received (attempt : Attempt World Jar) (sentAt : Instant)
      (response : Except RequestError HttpResponse)
  | measured (attempt : Attempt World Jar) (response : Except RequestError HttpResponse)
      (timing : RequestTiming)
  | concluded (user : VirtualUser World Jar) (outcome : Outcome)
  | releasing (user : VirtualUser World Jar) (after : AfterRelease)
  | pushed (after : AfterRelease)
  | dropping (code : DroppedCode)
  | logging (result : TransactionResult)
  | finished
  /-- A panic of the task, with the virtual user that is lost with it. -/
  | panicked (lost : Option (VirtualUser World Jar))

/-- One call of `HttpClient::send`. -/
structure Send where
  user : VirtualUserId
  specId : SpecId
  sentAt : Instant
  request : HttpRequest
  deriving DecidableEq

/-- What a task has done so far, in order. -/
structure Trace (World Jar : Type) where
  firstRun : Option Instant
  /-- When `acquire` was first polled. -/
  polled : Option Instant
  handed : List Instant
  acquired : List (VirtualUser World Jar)
  sends : List Send
  released : List (VirtualUser World Jar)
  logged : List TransactionResult

def Trace.empty {World Jar : Type} : Trace World Jar := ⟨none, none, [], [], [], [], []⟩

structure Task (World Url Jar : Type) where
  transaction : Transaction
  stage : Stage World Url Jar
  trace : Trace World Jar

namespace Task

variable {World Url Jar : Type}

def deadline (task : Task World Url Jar) : Instant :=
  task.transaction.startTime.instant.instant + dropTolerance

def enter (task : Task World Url Jar) (stage : Stage World Url Jar) : Task World Url Jar :=
  { task with stage }

def begin (task : Task World Url Jar) (now : Instant) : Task World Url Jar :=
  { task with trace := { task.trace with firstRun := some now } }

def poll (task : Task World Url Jar) (now : Instant) : Task World Url Jar :=
  { task with trace := { task.trace with polled := some now } }

/-- `_send_next_request` ends with the result of `execute`. -/
def conclude (task : Task World Url Jar) (attempt : Attempt World Jar)
    (executed : Except HttpExecuteError RequestTiming × VirtualUser World Jar) :
    Task World Url Jar :=
  let concluded := executed.2.conclude attempt.handle attempt.specId executed.1
  task.enter (.concluded concluded.2 concluded.1)

/-- The semaphore hands a permit to the task. -/
def hand (task : Task World Url Jar) (now : Instant) : Task World Url Jar :=
  { task with
    stage := .assigned
    trace := { task.trace with handed := task.trace.handed ++ [now] } }

def acquire (task : Task World Url Jar) (user : VirtualUser World Jar) : Task World Url Jar :=
  { task with trace := { task.trace with acquired := task.trace.acquired ++ [user] } }

def send (task : Task World Url Jar) (send : Send) : Task World Url Jar :=
  { task with trace := { task.trace with sends := task.trace.sends ++ [send] } }

def release (task : Task World Url Jar) (user : VirtualUser World Jar) : Task World Url Jar :=
  { task with trace := { task.trace with released := task.trace.released ++ [user] } }

def log (task : Task World Url Jar) (result : TransactionResult) : Task World Url Jar :=
  { task with trace := { task.trace with logged := task.trace.logged ++ [result] } }

end Task

inductive TaskEvent where
  | checkDeadline
  | tryAcquire
  | acquire
  | resume
  /-- The timer of `timeout_at` ends the wait. -/
  | timeOut
  | takeRandomUser (draw : Nat)
  | nextUserSpec (calls : Nat)
  | resolveUrl
  | measure
  | send
  | receive (response : Except RequestError HttpResponse)
  | finish
  | judge
  | convert
  | push
  | addPermits
  | logResult

section Steps

variable {World Url Jar : Type} (lua : Lua World) (web : WebLibrary Url Jar)

/-- The steps that concern nothing but the task itself. -/
def ownStep (now : Instant) (task : Task World Url Jar) :
    Stage World Url Jar → TaskEvent → Option (Task World Url Jar)
  | .spawned, .checkDeadline =>
      if task.deadline < now then some ((task.begin now).enter (.dropping .late))
      else some ((task.begin now).enter .onSchedule)
  | .awaited user, .checkDeadline =>
      if task.deadline < now then
        some (task.enter (.releasing user (.drop .noVirtualUser)))
      else some (task.enter (.ready user))
  | .ready user, .nextUserSpec calls =>
      match user.runner.nextUserSpec lua calls with
      | .unfinished => none
      | .panicked => some (task.enter (.panicked (some user)))
      | .returned (.error err, runner) =>
          some (task.enter (.concluded { user with runner }
            (.dropped (some user.id) (.error err.text))))
      | .returned (.ok (handle, specId, .http spec), runner) =>
          some (task.enter (.resolved { user := { user with runner }, handle, specId, spec }))
  | .resolved attempt, .resolveUrl =>
      match VirtualUser.resolveUrl web attempt.spec attempt.user.serviceRegistry with
      | .ok url => some (task.enter (.located attempt url))
      | .error source => some (task.conclude attempt (.error (.url source), attempt.user))
  | .located attempt url, .measure => some (task.enter (.measuring attempt url now))
  | .measuring attempt url sentAt, .send =>
      some ((task.send
        { user := attempt.user.id
          specId := attempt.specId
          sentAt
          request := attempt.user.request web url attempt.spec }).enter
        (.sending attempt url sentAt))
  | .sending attempt url sentAt, .receive response =>
      some (task.enter (.received
        { attempt with user := attempt.user.storeCookies web url response } sentAt response))
  | .received attempt sentAt response, .finish =>
      some (task.enter (.measured attempt response ⟨sentAt, ⟨now - sentAt⟩⟩))
  | .measured attempt response timing, .judge =>
      some (task.conclude attempt (attempt.user.judge lua attempt.spec response timing))
  | .concluded user outcome, .convert =>
      some (task.enter (.releasing user (.log (outcome.result task.transaction now))))
  | .dropping code, .convert =>
      some (task.enter (.logging (task.transaction.intoDropped none code now)))
  | .logging result, .logResult => some ((task.log result).enter .finished)
  | _, _ => none

end Steps

/-- All tasks with what they share.  `free` holds the times during which a permit
lay unclaimed, each from its first to its last instant. -/
structure System (World Url Jar : Type) where
  now : Instant
  pool : Pool (VirtualUser World Jar)
  waiters : List Nat
  tasks : List (Task World Url Jar)
  free : List (Instant × Instant)

namespace System

variable {World Url Jar : Type}

def put (system : System World Url Jar) (index : Nat) (task : Task World Url Jar) :
    System World Url Jar :=
  { system with tasks := system.tasks.set index task }

/-- `add_permits(1)`: the permit goes to the first task in the queue, if there is one. -/
def addPermits (system : System World Url Jar) : System World Url Jar :=
  match system.waiters with
  | [] => { system with pool := system.pool.addPermit }
  | first :: waiters =>
      { system with
        waiters
        tasks := system.tasks.modify first (·.hand system.now) }

/-- The steps of a task at the pool. -/
def poolStep (system : System World Url Jar) (index : Nat) (task : Task World Url Jar) :
    Stage World Url Jar → TaskEvent → Option (System World Url Jar)
  | .onSchedule, .tryAcquire =>
      match system.pool.takePermit with
      | some pool => some ({ system with pool }.put index (task.enter (.permitted false)))
      | none => some (system.put index (task.enter .tried))
  | .tried, .acquire =>
      match system.pool.takePermit with
      | some pool =>
          some ({ system with pool }.put index ((task.poll system.now).hand system.now))
      | none =>
          some ({ system with waiters := system.waiters ++ [index] }.put index
            ((task.poll system.now).enter .queued))
  | .assigned, .resume => some (system.put index (task.enter (.permitted true)))
  | .queued, .timeOut =>
      if task.deadline ≤ system.now then
        some ({ system with waiters := system.waiters.erase index }.put index
          (task.enter (.dropping .noVirtualUser)))
      else none
  | .assigned, .timeOut =>
      if task.deadline ≤ system.now then
        some (system.put index (task.enter (.dropping .noVirtualUser))).addPermits
      else none
  | .permitted waited, .takeRandomUser draw =>
      match system.pool.takeRandomUser draw with
      | none => some (system.put index (task.enter (.panicked none)))
      | some (user, pool) =>
          some ({ system with pool }.put index
            ((task.acquire user).enter (if waited then .awaited user else .ready user)))
  | .releasing user after, .push =>
      some ({ system with pool := system.pool.push user }.put index
        ((task.release user).enter (.pushed after)))
  | .pushed (.drop code), .addPermits =>
      some (system.put index (task.enter (.dropping code))).addPermits
  | .pushed (.log result), .addPermits =>
      some (system.put index (task.enter (.logging result))).addPermits
  | _, _ => none

inductive Event where
  | tick (elapsed : Duration)
  | dispatch (startTime : StartTime) (targetTime : RelativeLoadTestTime)
  | task (index : Nat) (event : TaskEvent)

/-- Note the time that passes, or the instant of the step, if a permit is unclaimed. -/
def observe (before after : System World Url Jar) : System World Url Jar :=
  if 0 < after.pool.available then
    { after with free := after.free ++ [(before.now, after.now)] }
  else after

@[simp]
theorem observe_tasks (before after : System World Url Jar) :
    (before.observe after).tasks = after.tasks := by
  unfold observe
  split_ifs <;> rfl

@[simp]
theorem observe_now (before after : System World Url Jar) :
    (before.observe after).now = after.now := by
  unfold observe
  split_ifs <;> rfl

/-- A transaction is dispatched once its scheduled arrival is reached. -/
def step (lua : Lua World) (web : WebLibrary Url Jar) (loadgeneratorId : LoadGeneratorId)
    (system : System World Url Jar) : Event → Option (System World Url Jar)
  | .tick elapsed => some { system with now := system.now + elapsed }
  | .dispatch startTime targetTime =>
      if startTime.instant.instant ≤ system.now then
        let transaction : Transaction := ⟨loadgeneratorId, startTime, targetTime⟩
        some { system with tasks := system.tasks ++ [⟨transaction, .spawned, .empty⟩] }
      else none
  | .task index event => do
      let task ← system.tasks[index]?
      match ownStep lua web system.now task task.stage event with
      | some task => return system.put index task
      | none => system.poolStep index task task.stage event

/-- At first nobody has been dispatched, and the pool has been set up. -/
def machine (lua : Lua World) (web : WebLibrary Url Jar) (loadgeneratorId : LoadGeneratorId)
    (virtualUserCount : UInt32) : Machine (System World Url Jar) Event where
  initial system :=
    (∃ (Failure : Type) (setup : VirtualUserId → Except Failure (VirtualUser World Jar)),
      (∀ id user, setup id = .ok user → user.IsSetUp id) ∧
      Pool.withClientAndRng setup virtualUserCount = .ok system.pool) ∧
    system.waiters = [] ∧ system.tasks = [] ∧
    system.free = if 0 < system.pool.available then [(system.now, system.now)] else []
  step system event := (system.step lua web loadgeneratorId event).map (system.observe ·)

end System

end Dispatch

end CreoBench
