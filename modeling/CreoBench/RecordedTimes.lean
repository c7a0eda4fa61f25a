import CreoBench.AllOrNothing
import CreoBench.DropReasons
import CreoBench.PacerRuns

/-!
# Recorded times are ordered

A result records times from five readings of the clock: the pacer waits for the
scheduled arrival, the measurement of the request begins and ends, the time of
sending is made relative to the phase, and the conversion into a result reads the
clock once more.  Whatever passes between two of them, the request is sent after
the scheduled arrival and its service time lies within the response time.
-/

namespace CreoBench

namespace TransactionResult

def startTime : TransactionResult → RelativeLoadTestTime
  | .success metadata _ _ | .failed metadata _ _ _ | .timeout metadata _ _ _ => metadata.startTime
  | .dropped metadata _ _ => metadata.startTime

def targetTime : TransactionResult → RelativeLoadTestTime
  | .success metadata _ _ | .failed metadata _ _ _ | .timeout metadata _ _ _ => metadata.targetTime
  | .dropped metadata _ _ => metadata.targetTime

def responseTime : TransactionResult → ResponseTime
  | .success _ responseTime _ | .failed _ responseTime _ _ | .timeout _ responseTime _ _
  | .dropped _ responseTime _ => responseTime

/-- What is recorded of the request; a dropped transaction has sent none. -/
def request : TransactionResult → Option (ResultMetadata × ServiceTime)
  | .success metadata _ serviceTime | .failed metadata _ serviceTime _
  | .timeout metadata _ serviceTime _ => some (metadata, serviceTime)
  | .dropped .. => none

theorem request_eq_none {result : TransactionResult} :
    result.request = none ↔ result.isDropped = true := by
  cases result <;> simp [request, isDropped]

theorem metadata_of_request {result : TransactionResult} {metadata : ResultMetadata}
    {serviceTime : ServiceTime} (sent : result.request = some (metadata, serviceTime)) :
    result.metadata = some metadata ∧ result.startTime = metadata.startTime := by
  cases result <;> cases sent <;> exact ⟨rfl, rfl⟩

end TransactionResult

/-- The measurement that a transaction ended with. -/
def Outcome.timing : Outcome → Option RequestTiming
  | .success _ _ timing | .failed _ _ timing _ | .timeout _ _ timing _ => some timing
  | .dropped .. => none

namespace Dispatch

variable {World Url Jar : Type}

/-! ## Readings of the clock -/

/-- A request that was sent since `start` and measured by `now`. -/
def MeasuredWithin (start now : Instant) (timing : RequestTiming) : Prop :=
  start ≤ timing.sentAt ∧ timing.sentAt + timing.serviceTime.inner ≤ now

/-- A result with the times of its transaction, and with a service time that is part of the
response time. -/
structure Recorded (transaction : Transaction) (result : TransactionResult) : Prop where
  startTime : result.startTime = transaction.startTime.relativeToStart
  targetTime : result.targetTime = transaction.targetTime
  service : ∀ metadata serviceTime, result.request = some (metadata, serviceTime) →
    metadata.sendTime.duration - metadata.startTime.duration + serviceTime.inner ≤
      result.responseTime.inner

/-- The readings that a task holds at a stage when the clock shows `now`. -/
def Clocked (transaction : Transaction) (now : Instant) : Stage World Url Jar → Prop
  | .measuring _ _ sentAt | .sending _ _ sentAt | .received _ sentAt _ =>
      transaction.startTime.instant.instant ≤ sentAt ∧ sentAt ≤ now
  | .measured _ _ timing => MeasuredWithin transaction.startTime.instant.instant now timing
  | .concluded _ outcome => ∀ timing, outcome.timing = some timing →
      MeasuredWithin transaction.startTime.instant.instant now timing
  | .releasing _ (.log result) | .pushed (.log result) | .logging result =>
      Recorded transaction result
  | _ => True

/-- The scheduled arrival of the task lies behind it, and with it all that it has measured. -/
structure Task.Clocked (task : Task World Url Jar) (now : Instant) : Prop where
  started : task.transaction.startTime.instant.instant ≤ now
  stage : Dispatch.Clocked task.transaction now task.stage
  sends : ∀ send ∈ task.trace.sends, task.transaction.startTime.instant.instant ≤ send.sentAt
  logged : ∀ result ∈ task.trace.logged, Recorded task.transaction result

theorem MeasuredWithin.later {start now later : Instant} {timing : RequestTiming}
    (measured : MeasuredWithin start now timing) (le : now ≤ later) :
    MeasuredWithin start later timing :=
  ⟨measured.1, measured.2.trans le⟩

theorem Clocked.later {transaction : Transaction} {now later : Instant}
    {stage : Stage World Url Jar} (clocked : Clocked transaction now stage) (le : now ≤ later) :
    Clocked transaction later stage := by
  cases stage with
  | measuring | sending | received => exact ⟨clocked.1, clocked.2.trans le⟩
  | measured => exact MeasuredWithin.later clocked le
  | concluded user outcome => exact fun timing timed => (clocked timing timed).later le
  | releasing user after | pushed after => cases after <;> exact clocked
  | _ => exact clocked

theorem Task.Clocked.later {task : Task World Url Jar} {now later : Instant}
    (clocked : task.Clocked now) (le : now ≤ later) : task.Clocked later :=
  ⟨clocked.started.trans le, clocked.stage.later le, clocked.sends, clocked.logged⟩

/-- The time from the arrival to the request and that of the request itself are within what has
passed since the arrival. -/
theorem service_within {start sentAt service now relative : Nat} (sent : start ≤ sentAt)
    (measured : sentAt + service ≤ now) :
    relative + (sentAt - start) - relative + service ≤ now - start := by
  omega

/-- Whatever a transaction ended in, its result records the order of the readings. -/
theorem recorded_result {transaction : Transaction} {outcome : Outcome} {now : Instant}
    (measured : ∀ timing, outcome.timing = some timing →
      MeasuredWithin transaction.startTime.instant.instant now timing) :
    Recorded transaction (outcome.result transaction now) := by
  have within : ∀ timing, outcome.timing = some timing →
      (transaction.startTime.relativeToStartOf timing.sentAt).duration -
          transaction.startTime.relativeToStart.duration + timing.serviceTime.inner ≤
        (transaction.startTime.elapsed now).inner := by
    intro timing timed
    exact service_within (measured timing timed).1 (measured timing timed).2
  cases outcome with
  | dropped id code => exact ⟨rfl, rfl, by rintro _ _ ⟨⟩⟩
  | success id specId timing | failed id specId timing code | timeout id specId timing code =>
      refine ⟨rfl, rfl, ?_⟩
      rintro _ _ ⟨⟩
      exact within timing rfl

/-- `conclude` passes on the measurement it is given. -/
theorem timing_conclude {user : VirtualUser World Jar} {handle : RevertHandle} {specId : SpecId}
    {executed : Except HttpExecuteError RequestTiming} {timing : RequestTiming}
    (timed : (user.conclude handle specId executed).1.timing = some timing) :
    executed = .ok timing ∨ ∃ err, executed = .error err ∧ err.timing = some timing := by
  cases executed with
  | ok measured =>
      cases timed
      exact .inl rfl
  | error err =>
      right
      refine ⟨err, rfl, ?_⟩
      cases err <;> cases timed <;> rfl

theorem clocked_conclude {task : Task World Url Jar} {now : Instant} (clocked : task.Clocked now)
    {attempt : Attempt World Jar}
    {executed : Except HttpExecuteError RequestTiming × VirtualUser World Jar}
    (measured : ∀ timing,
      (executed.1 = .ok timing ∨ ∃ err, executed.1 = .error err ∧ err.timing = some timing) →
        MeasuredWithin task.transaction.startTime.instant.instant now timing) :
    (task.conclude attempt executed).Clocked now := by
  refine ⟨clocked.started, ?_, clocked.sends, clocked.logged⟩
  intro timing timed
  exact measured timing (timing_conclude timed)

theorem clocked_judge {lua : Lua World} {task : Task World Url Jar} {now : Instant}
    (clocked : task.Clocked now) {attempt : Attempt World Jar}
    {response : Except RequestError HttpResponse} {timing : RequestTiming}
    (stageEq : task.stage = .measured attempt response timing) :
    (task.conclude attempt (attempt.user.judge lua attempt.spec response timing)).Clocked now := by
  have measured := clocked.stage
  rw [stageEq] at measured
  apply clocked_conclude clocked
  intro other timed
  rcases (VirtualUser.judge_spec lua attempt.user attempt.spec response timing).1 with
    ok | ⟨err, failed, errTimed⟩
  · rw [ok] at timed
    rcases timed with same | ⟨_, ⟨⟩, -⟩
    cases same
    exact measured
  · rw [failed] at timed
    rcases timed with ⟨⟨⟩⟩ | ⟨_, same, otherTimed⟩
    cases same
    rw [errTimed] at otherTimed
    cases otherTimed
    exact measured

theorem clocked_ownStep {lua : Lua World} {web : WebLibrary Url Jar} {now : Instant}
    {task task' : Task World Url Jar} {event : TaskEvent} (clocked : task.Clocked now)
    (stepped : ownStep lua web now task task.stage event = some task') : task'.Clocked now := by
  revert stepped
  generalize stageEq : task.stage = stage
  have held := clocked.stage
  rw [stageEq] at held
  fun_cases ownStep lua web now task stage event
  all_goals intro stepped
  all_goals cases stepped
  case case10 =>
    apply clocked_conclude clocked
    rintro timing (⟨⟨⟩⟩ | ⟨_, ⟨⟩, ⟨⟩⟩)
  case case7 => exact ⟨clocked.started, by rintro _ ⟨⟩, clocked.sends, clocked.logged⟩
  -- the measurement begins, the request is sent, and its response is received
  case case11 => exact ⟨clocked.started, ⟨clocked.started, le_rfl⟩, clocked.sends, clocked.logged⟩
  case case12 attempt url sentAt =>
    refine ⟨clocked.started, held, ?_, clocked.logged⟩
    intro send member
    rcases List.mem_append.mp member with old | new
    · exact clocked.sends send old
    · rw [List.mem_singleton.mp new]
      exact held.1
  case case13 => exact ⟨clocked.started, held, clocked.sends, clocked.logged⟩
  case case14 attempt sentAt response =>
    refine ⟨clocked.started, ⟨held.1, ?_⟩, clocked.sends, clocked.logged⟩
    exact Nat.le_of_eq (Nat.add_sub_cancel' held.2)
  case case15 => exact clocked_judge clocked stageEq
  -- results
  case case16 user outcome =>
    exact ⟨clocked.started, recorded_result held, clocked.sends, clocked.logged⟩
  case case17 code =>
    refine ⟨clocked.started, ⟨rfl, rfl, ?_⟩, clocked.sends, clocked.logged⟩
    rintro _ _ ⟨⟩
  case case18 result =>
    refine ⟨clocked.started, trivial, clocked.sends, ?_⟩
    intro other member
    rcases List.mem_append.mp member with old | new
    · exact clocked.logged other old
    · rw [List.mem_singleton.mp new]
      exact held
  all_goals exact ⟨clocked.started, trivial, clocked.sends, clocked.logged⟩

theorem clocked_poolMove {system : System World Url Jar} {task task' : Task World Url Jar}
    {now : Instant} (clocked : task.Clocked now) (move : PoolMove system task task') :
    task'.Clocked now := by
  have held := clocked.stage
  cases move with
  | @takeUser waited user stageEq member =>
      cases waited <;> exact ⟨clocked.started, trivial, clocked.sends, clocked.logged⟩
  | @push user after stageEq =>
      rw [stageEq] at held
      cases after <;> exact ⟨clocked.started, held, clocked.sends, clocked.logged⟩
  | log stageEq =>
      rw [stageEq] at held
      exact ⟨clocked.started, held, clocked.sends, clocked.logged⟩
  | _ => exact ⟨clocked.started, trivial, clocked.sends, clocked.logged⟩

theorem transaction_ownStep {lua : Lua World} {web : WebLibrary Url Jar} {now : Instant}
    {task task' : Task World Url Jar} {event : TaskEvent}
    (stepped : ownStep lua web now task task.stage event = some task') :
    task'.transaction = task.transaction := by
  revert stepped
  generalize task.stage = stage
  fun_cases ownStep lua web now task stage event
  all_goals intro stepped
  all_goals cases stepped
  all_goals rfl

theorem transaction_poolMove {system : System World Url Jar} {task task' : Task World Url Jar}
    (move : PoolMove system task task') : task'.transaction = task.transaction := by
  cases move <;> rfl

namespace System

variable {system next : System World Url Jar} {lua : Lua World} {web : WebLibrary Url Jar}
variable {loadgeneratorId : LoadGeneratorId} {virtualUserCount : UInt32}

theorem clocked_of_reachable
    (reachable : (machine lua web loadgeneratorId virtualUserCount).Reachable system)
    {index : Nat} {task : Task World Url Jar} (found : system.tasks[index]? = some task) :
    task.Clocked system.now := by
  apply forall_tasks_of_reachableBy (fun now task => task.Clocked now) _ _ _ _ _ reachable found
  · exact fun now startTime targetTime started =>
      ⟨started, trivial, by rintro _ ⟨⟩, by rintro _ ⟨⟩⟩
  · exact fun now later task clocked le => clocked.later le
  · exact fun system index event task task' _ before clocked own => clocked_ownStep clocked own
  · exact fun system task task' clocked move => clocked_poolMove clocked move
  · exact fun now task clocked queued => ⟨clocked.started, trivial, clocked.sends, clocked.logged⟩

/-- A task keeps the transaction it was dispatched with. -/
theorem transaction_of_step {event : Event} {index : Nat} {task : Task World Url Jar}
    (pooled : system.Pooled virtualUserCount)
    (stepped : (machine lua web loadgeneratorId virtualUserCount).step system event = some next)
    (found : next.tasks[index]? = some task) :
    (∃ before, system.tasks[index]? = some before ∧ task.transaction = before.transaction) ∨
      ∃ startTime targetTime, event = .dispatch startTime targetTime ∧
        task.transaction = ⟨loadgeneratorId, startTime, targetTime⟩ := by
  rcases Option.map_eq_some_iff.mp stepped with ⟨moved, step, rfl⟩
  rw [observe_tasks] at found
  cases changed_of_step pooled step found with
  | dispatched started new => exact .inr ⟨_, _, rfl, rfl⟩
  | kept before other => exact .inl ⟨task, before, rfl⟩
  | own before own => exact .inl ⟨_, before, transaction_ownStep own⟩
  | pooled before move => exact .inl ⟨_, before, transaction_poolMove move⟩
  | handed before queued => exact .inl ⟨_, before, rfl⟩

end System

end Dispatch

/-! ## Arrivals before the deadlines of their steps -/

/-- The arrival belongs to a step and falls before its deadline. -/
def BeforeDeadline (steps : List ScheduledStep) (arrival : Arrival) : Prop :=
  ∃ step ∈ steps, arrival.step = step.index ∧ arrival.offset < step.deadline

theorem BeforeDeadline.mono {steps more : List ScheduledStep} {arrival : Arrival}
    (before : BeforeDeadline steps arrival) (subset : steps ⊆ more) :
    BeforeDeadline more arrival := by
  obtain ⟨step, member, described⟩ := before
  exact ⟨step, subset member, described⟩

namespace ArrivalSchedule

theorem candidate_before {step : ScheduledStep} {clock offset : Duration}
    {gaps rest : List Duration} (drawn : candidate step clock gaps = some (some offset, rest)) :
    offset < step.deadline := by
  unfold candidate at drawn
  split_ifs at drawn with positive
  · split at drawn
    · cases drawn
    · split_ifs at drawn with before
      · cases drawn
        exact before
      · cases drawn
  · cases drawn

theorem nextFrom_before {step : ScheduledStep} {clock : Duration}
    {following : List ScheduledStep} {gaps : List Duration} {arrival : Arrival}
    {schedule : ArrivalSchedule}
    (called : nextFrom step clock following gaps = some (some arrival, schedule)) :
    BeforeDeadline (step :: following) arrival := by
  induction following generalizing step clock gaps with
  | nil =>
      unfold nextFrom at called
      split at called
      case h_1 => cases called
      case h_2 drawn =>
        cases called
        exact ⟨step, List.mem_cons_self, rfl, candidate_before drawn⟩
      case h_3 => cases called
  | cons later following ih =>
      unfold nextFrom at called
      split at called
      case h_1 => cases called
      case h_2 drawn =>
        cases called
        exact ⟨step, List.mem_cons_self, rfl, candidate_before drawn⟩
      case h_3 => exact (ih called).mono (List.subset_cons_self _ _)

theorem next_before {schedule schedule' : ArrivalSchedule} {gaps : List Duration}
    {arrival : Arrival} (called : schedule.next gaps = some (some arrival, schedule')) :
    BeforeDeadline schedule.remaining arrival := by
  unfold next at called
  split at called
  case h_1 => cases called
  case h_2 step current => simpa [remaining, current] using nextFrom_before called

end ArrivalSchedule

/-- Every arrival that a schedule has returned falls before the deadline of its step. -/
theorem ScheduleRun.before_of_reachable {steps : List ScheduledStep} {run : ScheduleRun}
    (reachable : (machine steps).Reachable run) :
    ∀ arrival ∈ run.arrivals, BeforeDeadline steps arrival := by
  suffices holds : run.schedule.remaining <:+ steps ∧
      ∀ arrival ∈ run.arrivals, BeforeDeadline steps arrival from holds.2
  apply reachable.invariant
  · rintro _ rfl
    exact ⟨by simp, by simp [arrivals]⟩
  · rintro run gaps next ⟨remaining, before⟩ - stepped
    obtain ⟨arrival, called, -, -, arrivalsEq, -⟩ := step_spec stepped
    refine ⟨(ArrivalSchedule.next_spec called).1.trans remaining, ?_⟩
    intro other member
    rw [arrivalsEq] at member
    rcases List.mem_append.mp member with old | new
    · exact before other old
    · obtain rfl : arrival = some other := Option.mem_toList.mp new
      exact (ArrivalSchedule.next_before called).mono remaining.subset

/-- Numbered steps are told apart by their numbers. -/
theorem ScheduledStep.Indexed.getElem?_eq_some {steps : List ScheduledStep}
    (indexed : Indexed 0 steps) {step : ScheduledStep} (member : step ∈ steps) :
    steps[step.index]? = some step := by
  obtain ⟨position, found⟩ := List.getElem?_of_mem member
  obtain ⟨bound, stepEq⟩ := List.getElem?_eq_some_iff.mp found
  have numbers := congrArg (·[position]?) indexed
  have number : step.index = position := by
    rw [← stepEq]
    simpa [bound] using numbers
  rw [number, found]

/-- A dispatched transaction starts at its arrival, which falls before its target time. -/
theorem PacerRun.dispatched_before {generator : LoadGeneratorId} {steps : List ScheduledStep}
    {timeZero : LoadTestTime} {run : PacerRun} (indexed : ScheduledStep.Indexed 0 steps)
    (reachable : (machine generator steps timeZero).Reachable run) {arrival : Arrival}
    {dispatchedAt : Instant} {transaction : Transaction}
    (member : .dispatched arrival dispatchedAt transaction ∈ run.notes) :
    transaction.loadgeneratorId = generator ∧
      transaction.startTime = .scheduled timeZero ⟨arrival.offset⟩ ∧
        arrival.offset < transaction.targetTime.duration := by
  have accounted := accounted_of_reachable indexed reachable
  obtain ⟨-, -, step, stepAt, rfl⟩ := accounted.booked.dispatches _ _ _ member
  have dispatched : arrival ∈ run.dispatched :=
    List.mem_filterMap.mpr ⟨_, member, rfl⟩
  have returned : arrival ∈ run.arrivals := by
    rw [accounted.pending]
    exact List.mem_append_left _ dispatched
  obtain ⟨other, otherMem, number, before⟩ :=
    ScheduleRun.before_of_reachable (scheduleRun_of_reachable reachable) arrival returned
  have same := indexed.getElem?_eq_some otherMem
  rw [← number, stepAt] at same
  cases same
  exact ⟨rfl, rfl, before⟩

/-! ## Phases and their transactions -/

/-- A call of `run_schedule`, with the thread that it occupies. -/
structure ScheduleCall where
  steps : List ScheduledStep
  timeZero : LoadTestTime
  run : PacerRun
  deriving DecidableEq

def PacerNote.transaction? : PacerNote → Option Transaction
  | stepDone _ => none
  | dispatched _ _ transaction => some transaction

/-- The calls of `run_schedule` and the tasks that they spawn, on one clock. -/
structure Dispatcher (World Url Jar : Type) where
  calls : List ScheduleCall
  system : Dispatch.System World Url Jar

namespace Dispatcher

variable {World Url Jar : Type}

inductive Event where
  | runSchedule (steps : List ScheduledStep) (timeZero : LoadTestTime)
  | pace (index : Nat) (gaps : List Duration) (receiverGone : Bool)
  | tick (elapsed : Duration)
  | task (index : Nat) (event : Dispatch.TaskEvent)

/-- What a step of a thread dispatches. -/
def dispatchedSince (before after : PacerRun) : Option Transaction :=
  (after.notes.drop before.notes.length).findSome? PacerNote.transaction?

section Machine

variable (lua : Lua World) (web : WebLibrary Url Jar) (loadgeneratorId : LoadGeneratorId)
variable (virtualUserCount : UInt32)

/-- The task of a transaction is spawned. -/
def dispatch (system : Dispatch.System World Url Jar) :
    Option Transaction → Option (Dispatch.System World Url Jar)
  | none => some system
  | some transaction =>
      (Dispatch.System.machine lua web loadgeneratorId virtualUserCount).step system
        (.dispatch transaction.startTime transaction.targetTime)

def step (dispatcher : Dispatcher World Url Jar) : Event → Option (Dispatcher World Url Jar)
  | .runSchedule steps timeZero =>
      some { dispatcher with
        calls := dispatcher.calls ++ [⟨steps, timeZero, .new steps timeZero⟩] }
  | .pace index gaps receiverGone => do
      let call ← dispatcher.calls[index]?
      let run ← call.run.step loadgeneratorId ⟨dispatcher.system.now, gaps, receiverGone⟩
      let system ← dispatch lua web loadgeneratorId virtualUserCount dispatcher.system
        (dispatchedSince call.run run)
      return { calls := dispatcher.calls.set index { call with run }, system }
  | .tick elapsed =>
      ((Dispatch.System.machine lua web loadgeneratorId virtualUserCount).step
        dispatcher.system (.tick elapsed)).map fun system => { dispatcher with system }
  | .task index event =>
      ((Dispatch.System.machine lua web loadgeneratorId virtualUserCount).step
        dispatcher.system (.task index event)).map fun system => { dispatcher with system }

def machine : Machine (Dispatcher World Url Jar) Event where
  initial dispatcher :=
    dispatcher.calls = [] ∧ (Dispatch.System.machine lua web loadgeneratorId
      virtualUserCount).initial dispatcher.system
  step := step lua web loadgeneratorId virtualUserCount

end Machine

/-- Profiles and warmups number the steps that they are scheduled with. -/
def Numbered (_ : Dispatcher World Url Jar) : Event → Prop
  | .runSchedule steps _ => ScheduledStep.Indexed 0 steps
  | _ => True

variable {lua : Lua World} {web : WebLibrary Url Jar} {loadgeneratorId : LoadGeneratorId}
variable {virtualUserCount : UInt32} {dispatcher next : Dispatcher World Url Jar}

/-- Notes are kept, and what a step dispatches is noted. -/
theorem noted_of_step {steps : List ScheduledStep} {timeZero : LoadTestTime}
    {run next : PacerRun} {event : PacerEvent}
    (stepped : (PacerRun.machine loadgeneratorId steps timeZero).step run event = some next) :
    run.notes ⊆ next.notes ∧
      ∀ transaction, dispatchedSince run next = some transaction →
        ∃ arrival dispatchedAt, .dispatched arrival dispatchedAt transaction ∈ next.notes := by
  obtain ⟨more, notes⟩ : ∃ more, next.notes = run.notes ++ more := by
    obtain ⟨-, -, moves⟩ := PacerRun.step_cases stepped
    cases moves with
    | announce | dispatch => exact ⟨_, rfl⟩
    | arrive | exhaust | refuse | panic | read | finish => exact ⟨[], (List.append_nil _).symm⟩
  refine ⟨notes ▸ List.subset_append_left _ _, ?_⟩
  intro transaction dispatched
  rw [dispatchedSince, notes, List.drop_left] at dispatched
  obtain ⟨note, member, found⟩ := List.exists_of_findSome?_eq_some dispatched
  cases note with
  | stepDone done => cases found
  | dispatched arrival dispatchedAt transaction =>
      cases found
      exact ⟨arrival, dispatchedAt, notes ▸ List.mem_append_right _ member⟩

/-- Every call paces its steps, and every task is that of a transaction that a call has
dispatched. -/
structure Coupled (loadgeneratorId : LoadGeneratorId) (dispatcher : Dispatcher World Url Jar) :
    Prop where
  calls : ∀ call ∈ dispatcher.calls, ScheduledStep.Indexed 0 call.steps ∧
    (PacerRun.machine loadgeneratorId call.steps call.timeZero).Reachable call.run
  tasks : ∀ (index : Nat) (task : Dispatch.Task World Url Jar),
    dispatcher.system.tasks[index]? = some task → ∃ call ∈ dispatcher.calls,
      ∃ arrival dispatchedAt, .dispatched arrival dispatchedAt task.transaction ∈ call.run.notes

/-- A step of the tasks other than a dispatch. -/
theorem Coupled.system (coupled : dispatcher.Coupled loadgeneratorId)
    (pooled : dispatcher.system.Pooled virtualUserCount) {event : Dispatch.System.Event}
    {system : Dispatch.System World Url Jar}
    (stepped : (Dispatch.System.machine lua web loadgeneratorId virtualUserCount).step
      dispatcher.system event = some system)
    (other : ∀ startTime targetTime, event ≠ .dispatch startTime targetTime) :
    Coupled loadgeneratorId { dispatcher with system } := by
  refine ⟨coupled.calls, ?_⟩
  intro index task found
  rcases Dispatch.System.transaction_of_step pooled stepped found with
    ⟨before, beforeEq, same⟩ | ⟨startTime, targetTime, dispatched, -⟩
  · rw [same]
    exact coupled.tasks index before beforeEq
  · exact absurd dispatched (other startTime targetTime)

/-- A step of the thread of one call. -/
theorem Coupled.pace (coupled : dispatcher.Coupled loadgeneratorId)
    (pooled : dispatcher.system.Pooled virtualUserCount) {index : Nat} {call : ScheduleCall}
    (callEq : dispatcher.calls[index]? = some call) {event : PacerEvent} {run : PacerRun}
    (paced : (PacerRun.machine loadgeneratorId call.steps call.timeZero).step call.run event =
      some run)
    {system : Dispatch.System World Url Jar}
    (dispatched : dispatch lua web loadgeneratorId virtualUserCount dispatcher.system
      (dispatchedSince call.run run) = some system) :
    Coupled loadgeneratorId
      { calls := dispatcher.calls.set index { call with run }, system } := by
  obtain ⟨indexed, reachable⟩ := coupled.calls call (List.mem_of_getElem? callEq)
  have reached := reachable.step trivial paced
  obtain ⟨kept, noted⟩ := noted_of_step paced
  have paces : { call with run } ∈ dispatcher.calls.set index { call with run } := by
    obtain ⟨bound, -⟩ := List.getElem?_eq_some_iff.mp callEq
    exact List.mem_iff_getElem?.mpr ⟨index, by simp [bound]⟩
  -- what was noted before is noted still
  have stillNoted : ∀ transaction : Transaction,
      (∃ call ∈ dispatcher.calls, ∃ arrival dispatchedAt,
        .dispatched arrival dispatchedAt transaction ∈ call.run.notes) →
      ∃ other ∈ dispatcher.calls.set index { call with run }, ∃ arrival dispatchedAt,
        .dispatched arrival dispatchedAt transaction ∈ other.run.notes := by
    rintro transaction ⟨other, member, arrival, dispatchedAt, otherNoted⟩
    obtain ⟨position, found⟩ := List.getElem?_of_mem member
    by_cases same : index = position
    · subst same
      cases callEq.symm.trans found
      exact ⟨_, paces, arrival, dispatchedAt, kept otherNoted⟩
    · refine ⟨other, List.mem_of_getElem? (i := position) ?_, arrival, dispatchedAt, otherNoted⟩
      rw [List.getElem?_set_ne same, found]
  constructor
  · intro other member
    rcases List.mem_or_eq_of_mem_set member with old | rfl
    · exact coupled.calls other old
    · exact ⟨indexed, reached⟩
  · intro position task found
    cases since : dispatchedSince call.run run with
    | none =>
        rw [since] at dispatched
        cases dispatched
        exact stillNoted _ (coupled.tasks position task found)
    | some transaction =>
        rw [since] at dispatched
        rcases Dispatch.System.transaction_of_step pooled dispatched found with
          ⟨before, beforeEq, same⟩ | ⟨startTime, targetTime, spawned, made⟩
        · rw [same]
          exact stillNoted _ (coupled.tasks position before beforeEq)
        · cases spawned
          obtain ⟨arrival, dispatchedAt, member⟩ := noted transaction since
          obtain ⟨generator, -, -⟩ := PacerRun.dispatched_before indexed reached member
          refine ⟨_, paces, arrival, dispatchedAt, ?_⟩
          rw [made, ← generator]
          exact member

theorem system_of_reachable
    (reachable : (machine lua web loadgeneratorId virtualUserCount).Reachable dispatcher) :
    (Dispatch.System.machine lua web loadgeneratorId virtualUserCount).Reachable
      dispatcher.system := by
  apply reachable.project Dispatcher.system
  · exact fun _ initial => initial.2
  · intro dispatcher event next _ stepped
    cases event with
    | runSchedule steps timeZero =>
        cases stepped
        exact .inl rfl
    | pace index gaps receiverGone =>
        simp only [machine, step, Option.bind_eq_bind, Option.bind_eq_some_iff, Option.pure_def,
          Option.some.injEq] at stepped
        obtain ⟨call, -, run, -, system, dispatched, rfl⟩ := stepped
        cases since : dispatchedSince call.run run with
        | none =>
            rw [since] at dispatched
            cases dispatched
            exact .inl rfl
        | some transaction =>
            rw [since] at dispatched
            exact .inr ⟨_, trivial, dispatched⟩
    | tick elapsed =>
        simp only [machine, step, Option.map_eq_some_iff] at stepped
        obtain ⟨system, moved, rfl⟩ := stepped
        exact .inr ⟨_, trivial, moved⟩
    | task index event =>
        simp only [machine, step, Option.map_eq_some_iff] at stepped
        obtain ⟨system, moved, rfl⟩ := stepped
        exact .inr ⟨_, trivial, moved⟩

theorem coupled_of_reachableBy
    (reachable : (machine lua web loadgeneratorId virtualUserCount).ReachableBy Numbered
      dispatcher) : dispatcher.Coupled loadgeneratorId := by
  apply Machine.ReachableBy.invariant_of_known
    (fun _ reached => Dispatch.System.pooled_of_reachable (system_of_reachable reached)) _ _
    reachable
  · rintro dispatcher ⟨noCalls, -, -, noTasks, -⟩
    exact ⟨by simp [noCalls], by simp [noTasks]⟩
  · intro dispatcher event next pooled coupled numbered stepped
    cases event with
    | runSchedule steps timeZero =>
        cases stepped
        constructor
        · intro call member
          rcases List.mem_append.mp member with old | new
          · exact coupled.calls call old
          · rw [List.mem_singleton.mp new]
            exact ⟨numbered, .start rfl⟩
        · intro index task found
          obtain ⟨call, member, noted⟩ := coupled.tasks index task found
          exact ⟨call, List.mem_append_left _ member, noted⟩
    | pace index gaps receiverGone =>
        simp only [machine, step, Option.bind_eq_bind, Option.bind_eq_some_iff, Option.pure_def,
          Option.some.injEq] at stepped
        obtain ⟨call, callEq, run, paced, system, dispatched, rfl⟩ := stepped
        exact coupled.pace pooled callEq paced dispatched
    | tick elapsed =>
        simp only [machine, step, Option.map_eq_some_iff] at stepped
        obtain ⟨system, moved, rfl⟩ := stepped
        exact coupled.system pooled moved (by simp)
    | task index event =>
        simp only [machine, step, Option.map_eq_some_iff] at stepped
        obtain ⟨system, moved, rfl⟩ := stepped
        exact coupled.system pooled moved (by simp)

end Dispatcher

/-! ## Recorded times -/

namespace DurationMeasurement

variable {Kind Kind' : Type}

@[simp]
theorem asMillis_truncateMillis (measurement : DurationMeasurement Kind) :
    measurement.truncateMillis.asMillis = measurement.asMillis := by
  simp [asMillis, truncateMillis, Duration.asMillis, Duration.fromMillis]

/-- Whole milliseconds are in order where the longer duration has few enough of them. -/
theorem asMillis_le {shorter : DurationMeasurement Kind} {longer : DurationMeasurement Kind'}
    (le : Duration.asMillis shorter.inner ≤ Duration.asMillis longer.inner)
    (fit : longer.MillisFit) : shorter.asMillis ≤ longer.asMillis := by
  rw [UInt64.le_iff_toNat_le, asMillis, asMillis, UInt64.toNat_ofNat_of_lt' fit,
    UInt64.toNat_ofNat_of_lt' (le.trans_lt fit)]
  exact le

end DurationMeasurement

/-- A result that is sent has a response time of less than `2 ^ 64` milliseconds. -/
theorem TransactionResult.responseTime_fit {result : TransactionResult}
    (written : codec.Writes result) : result.responseTime.MillisFit := by
  cases result with
  | success | failed | timeout | dropped =>
      have fields := SerdeCodec.Variant.writes_of.mp ((SerdeCodec.writes_enum rfl).mp written)
      simp only [Option.some.injEq, exists_eq_left', SerdeCodec.variantField, Codec.writes_pair,
        Codec.writes_mapFailures, DurationMeasurement.writes_iff] at fields
      exact fields.2.1

/-- The times of the request of a transaction whose scheduled arrival is at `arrival`. -/
structure RequestInOrder (arrival : Instant) (sends : List Dispatch.Send)
    (result : TransactionResult) (metadata : ResultMetadata) (serviceTime : ServiceTime) :
    Prop where
  sent : metadata.startTime.duration ≤ metadata.sendTime.duration
  /-- The request was sent no earlier than the arrival, so nothing is clamped, and its delay
  is exact. -/
  delay : ∃ send, sends = [send] ∧ arrival ≤ send.sentAt ∧
    metadata.sendTime.duration - metadata.startTime.duration = send.sentAt - arrival
  response : metadata.sendTime.duration - metadata.startTime.duration + serviceTime.inner ≤
    result.responseTime.inner
  wholeMillis : Duration.asMillis serviceTime.inner ≤ Duration.asMillis result.responseTime.inner
  /-- The same in 64 bits, as it is sent to the orchestrator and as it is written there. -/
  columns : TransactionResult.codec.Writes result →
    serviceTime.asMillis ≤ result.responseTime.asMillis ∧
      serviceTime.truncateMillis.asMillis ≤ result.responseTime.truncateMillis.asMillis

/-- The times of a result whose transaction was due `offset` after `timeZero`. -/
structure TimesInOrder (timeZero : LoadTestTime) (offset : Duration)
    (sends : List Dispatch.Send) (result : TransactionResult) : Prop where
  startTime : result.startTime = ⟨offset⟩
  target : result.startTime.duration < result.targetTime.duration
  request : result.isDropped = false → ∃ metadata serviceTime,
    result.request = some (metadata, serviceTime) ∧ metadata.startTime = result.startTime ∧
      RequestInOrder (timeZero.instant + offset) sends result metadata serviceTime

namespace Dispatch

variable {World Url Jar : Type}

/-- What was recorded, with the one request that the task has sent. -/
theorem requestInOrder {task : Task World Url Jar} {now : Instant} {result : TransactionResult}
    (clocked : task.Clocked now) (member : result ∈ task.trace.logged)
    (describes : Describes task.transaction task.trace result) {metadata : ResultMetadata}
    {serviceTime : ServiceTime} (sent : result.request = some (metadata, serviceTime)) :
    RequestInOrder task.transaction.startTime.instant.instant task.trace.sends result metadata
      serviceTime := by
  have recorded := clocked.logged result member
  have service := recorded.service metadata serviceTime sent
  have sends := describes.sends
  unfold DescribesSends at sends
  rw [(TransactionResult.metadata_of_request sent).1] at sends
  obtain ⟨sentAt, request, sendsEq, startTime, sendTime⟩ := sends
  have sendTimeEq : metadata.sendTime.duration = metadata.startTime.duration +
      (sentAt - task.transaction.startTime.instant.instant) := by
    rw [sendTime, startTime]
    rfl
  have millis : Duration.asMillis serviceTime.inner ≤
      Duration.asMillis result.responseTime.inner :=
    Nat.div_le_div_right ((Nat.le_add_left _ _).trans service)
  constructor
  · rw [sendTimeEq]
    exact Nat.le_add_right _ _
  · refine ⟨_, sendsEq, ?_, ?_⟩
    · apply clocked.sends
      rw [sendsEq]
      exact List.mem_cons_self
    · rw [sendTimeEq, Nat.add_sub_cancel_left]
  · exact service
  · exact millis
  · intro written
    have inOrder := DurationMeasurement.asMillis_le millis
      (TransactionResult.responseTime_fit written)
    exact ⟨inOrder, by simpa using inOrder⟩

end Dispatch

/-- Every transaction that `run_schedule` dispatches starts at its scheduled arrival and before
its target time, and whatever becomes of it, its recorded times are in order. -/
theorem Dispatcher.recorded_times_ordered {World Url Jar : Type} {lua : Lua World}
    {web : WebLibrary Url Jar} {loadgeneratorId : LoadGeneratorId} {virtualUserCount : UInt32}
    {dispatcher : Dispatcher World Url Jar}
    (reachable : (machine lua web loadgeneratorId virtualUserCount).ReachableBy Numbered
      dispatcher)
    {index : Nat} {task : Dispatch.Task World Url Jar}
    (found : dispatcher.system.tasks[index]? = some task) :
    ∃ call ∈ dispatcher.calls, ∃ arrival dispatchedAt,
      .dispatched arrival dispatchedAt task.transaction ∈ call.run.notes ∧
        task.transaction.startTime.relativeToStart = ⟨arrival.offset⟩ ∧
        arrival.offset < task.transaction.targetTime.duration ∧
        ∀ result ∈ task.trace.logged,
          TimesInOrder call.timeZero arrival.offset task.trace.sends result := by
  have coupled := coupled_of_reachableBy reachable
  have system := system_of_reachable reachable.reachable
  obtain ⟨call, callMem, arrival, dispatchedAt, noted⟩ := coupled.tasks index task found
  obtain ⟨indexed, reached⟩ := coupled.calls call callMem
  obtain ⟨-, startTime, target⟩ := PacerRun.dispatched_before indexed reached noted
  have clocked := Dispatch.System.clocked_of_reachable system found
  have relative : task.transaction.startTime.relativeToStart = ⟨arrival.offset⟩ := by
    rw [startTime]
    rfl
  refine ⟨call, callMem, arrival, dispatchedAt, noted, relative, target, ?_⟩
  intro result member
  have recorded := clocked.logged result member
  -- a result is logged by the last step of its task
  have results := Dispatch.System.results_describe_sends system found
  have finished : task.stage = .finished := by
    by_contra unfinished
    rw [(results.2.1 unfinished).1] at member
    cases member
  obtain ⟨logged, loggedEq, describes⟩ := results.1 finished
  obtain rfl : result = logged := by simpa [loggedEq] using member
  constructor
  · rw [recorded.startTime, relative]
  · rw [recorded.startTime, recorded.targetTime, relative]
    exact target
  · intro notDropped
    cases sent : result.request with
    | none =>
        rw [TransactionResult.request_eq_none.mp sent] at notDropped
        cases notDropped
    | some request =>
        obtain ⟨metadata, serviceTime⟩ := request
        have inOrder := Dispatch.requestInOrder clocked member describes sent
        rw [startTime] at inOrder
        exact ⟨metadata, serviceTime, rfl,
          (TransactionResult.metadata_of_request sent).2.symm, inOrder⟩

namespace Dispatcher

/-- A transaction that is dispatched 5 ns late and sends its request 5 ns later. -/
def overdueArrival : List Event :=
  [.tick 100, .runSchedule ScheduleRun.threeSteps ⟨100⟩, .pace 0 [4] false, .tick 9,
    .pace 0 [] false, .tick 2, .task 0 .checkDeadline, .task 0 .tryAcquire,
    .task 0 (.takeRandomUser 0), .task 0 (.nextUserSpec 0), .tick 3, .task 0 .resolveUrl,
    .task 0 .measure, .tick 1, .task 0 .send, .tick 5000000,
    .task 0 (.receive (.ok ⟨200, [], none⟩)), .task 0 .finish, .task 0 .judge, .tick 2000000,
    .task 0 .convert, .task 0 .push, .task 0 .addPermits, .task 0 .logResult]

def numbered (_ : Dispatcher Unit String Unit) : Event → Bool
  | .runSchedule steps _ => steps.map (·.index) = List.range' 0 steps.length
  | _ => true

theorem numbered_of (dispatcher : Dispatcher Unit String Unit) (event : Event)
    (isNumbered : numbered dispatcher event) : dispatcher.Numbered event := by
  cases event with
  | runSchedule steps timeZero =>
      have indices : steps.map (·.index) = List.range' 0 steps.length :=
        of_decide_eq_true isNumbered
      exact indices
  | pace | tick | task => trivial

theorem recorded_times_ordered_overdue :
    ∃ (dispatcher : Dispatcher Unit String Unit) (task : Dispatch.Task Unit String Unit),
      dispatcher.system.tasks[0]? = some task ∧ task.trace.logged.any (·.isSuccess) ∧
        ∃ call ∈ dispatcher.calls, ∃ arrival dispatchedAt,
          .dispatched arrival dispatchedAt task.transaction ∈ call.run.notes ∧
            ∀ result ∈ task.trace.logged,
              TimesInOrder call.timeZero arrival.offset task.trace.sends result := by
  have initial : (machine Dispatch.OneUser.lua Dispatch.OneUser.web ⟨0⟩ 1).initial
      ⟨[], Dispatch.OneUser.start⟩ := ⟨rfl, Dispatch.OneUser.initial⟩
  have ⟨dispatcher, reachable, ended⟩ :=
    (machine Dispatch.OneUser.lua Dispatch.OneUser.web ⟨0⟩ 1).exists_reachableBy_of_exec
      numbered_of initial overdueArrival
      (fun dispatcher => Dispatch.OneUser.logged 0 (fun results => results.any (·.isSuccess))
        dispatcher.system) (by decide +kernel)
  rcases Option.any_eq_true _ _ |>.mp ended with ⟨task, found, checked⟩
  obtain ⟨call, member, arrival, dispatchedAt, noted, -, -, inOrder⟩ :=
    recorded_times_ordered reachable found
  exact ⟨dispatcher, task, found, (Bool.and_eq_true_iff.mp checked).2, call, member, arrival,
    dispatchedAt, noted, inOrder⟩

end Dispatcher

end CreoBench
