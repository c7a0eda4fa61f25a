import CreoBench.ScriptWalk

/-!
# Sessions of virtual users

The tasks share the virtual users, and their steps interleave.  To the service under
test, every virtual user is still one client that sends its requests one after another:
what was sent in its name is the session of a user that nobody else uses, in which every
request starts with the script, its state and the cookies that the one before has left.
-/

namespace CreoBench

namespace VirtualUser

variable {World Url Jar : Type}

/-- The request that `_send_next_request` sends, if it comes to it. -/
def nextRequest (lua : Lua World) (web : WebLibrary Url Jar) (user : VirtualUser World Jar)
    (calls : Nat) : Option (SpecId × HttpRequest) :=
  match user.runner.nextUserSpec lua calls with
  | .returned (.ok (_, specId, .http spec), _) =>
      match resolveUrl web spec user.serviceRegistry with
      | .ok url => some (specId, user.request web url spec)
      | .error _ => none
  | _ => none

/-- The requests of a virtual user that executes one transaction after another, and the
user that they leave behind. -/
inductive Session (lua : Lua World) (web : WebLibrary Url Jar) (first : VirtualUser World Jar) :
    List (SpecId × HttpRequest) → VirtualUser World Jar → Prop
  | start : Session lua web first [] first
  | next {requests : List (SpecId × HttpRequest)} {user after : VirtualUser World Jar}
      {exchange : Exchange} {outcome : Outcome} :
      Session lua web first requests user →
        user.sendNextRequest lua web exchange = .returned (outcome, after) →
          Session lua web first
            (requests ++ (user.nextRequest lua web exchange.calls).toList) after

variable {lua : Lua World} {web : WebLibrary Url Jar} {user : VirtualUser World Jar}

theorem nextRequest_of_error {calls : Nat} {err : Script.Error} {runner : ScriptRunner World}
    (failed : user.runner.nextUserSpec lua calls = .returned (.error err, runner)) :
    user.nextRequest lua web calls = none := by
  rw [nextRequest, failed]

end VirtualUser

namespace Dispatch

variable {World Url Jar : Type} {lua : Lua World} {web : WebLibrary Url Jar}

open VirtualUser (Session)

section

variable {user first : VirtualUser World Jar} {attempt : Attempt World Jar} {calls : Nat}

theorem nextRequest_of_located {url : Url} (taken : attempt.TakenBy lua user calls)
    (located : VirtualUser.resolveUrl web attempt.spec attempt.user.serviceRegistry = .ok url) :
    user.nextRequest lua web calls =
      some (attempt.specId, attempt.user.request web url attempt.spec) := by
  rcases taken with ⟨runner, nextEq, userEq⟩
  rw [userEq] at located ⊢
  simp only [VirtualUser.nextRequest, nextEq, located]
  rfl

theorem nextRequest_of_unresolved {source : UrlError} (taken : attempt.TakenBy lua user calls)
    (unresolved : VirtualUser.resolveUrl web attempt.spec attempt.user.serviceRegistry =
      .error source) : user.nextRequest lua web calls = none := by
  rcases taken with ⟨runner, nextEq, userEq⟩
  rw [userEq] at unresolved
  simp only [VirtualUser.nextRequest, nextEq, unresolved]

/-! ## Tasks within a session -/

/-- A request as the service sees it. -/
def Send.content (send : Send) : SpecId × HttpRequest := (send.specId, send.request)

/-- The stages of a task that holds a virtual user between two transactions or has sent
`sent` within one. -/
def Visiting (lua : Lua World) (web : WebLibrary Url Jar) (user : VirtualUser World Jar)
    (sent : List (SpecId × HttpRequest)) : Stage World Url Jar → Prop
  | .awaited current | .ready current | .concluded current _ | .releasing current _ =>
      current = user ∧ sent = []
  | .sending attempt url sentAt => ∃ exchange,
      Executing lua web user exchange (.sending attempt url sentAt) ∧
        sent = (user.nextRequest lua web exchange.calls).toList
  | .received attempt sentAt response => ∃ exchange,
      Executing lua web user exchange
          (.received attempt sentAt response : Stage World Url Jar) ∧
        sent = (user.nextRequest lua web exchange.calls).toList
  | .measured attempt response timing => ∃ exchange,
      Executing lua web user exchange
          (.measured attempt response timing : Stage World Url Jar) ∧
        sent = (user.nextRequest lua web exchange.calls).toList
  | stage => sent = [] ∧ ∃ exchange, Executing lua web user exchange stage

/-- The session of the user that the task holds, up to where the task stands. -/
def InSession (lua : Lua World) (web : WebLibrary Url Jar) (first : VirtualUser World Jar)
    (requests : List (SpecId × HttpRequest)) (stage : Stage World Url Jar) : Prop :=
  ∃ (before : List (SpecId × HttpRequest)) (user : VirtualUser World Jar)
    (sent : List (SpecId × HttpRequest)),
    Session lua web first before user ∧ Visiting lua web user sent stage ∧
      requests = before ++ sent

/-- What a step of a task adds to the requests that it has sent. -/
def newSends (before after : Task World Url Jar) : List Send :=
  after.trace.sends.drop before.trace.sends.length

theorem newSends_of_same {before after : Task World Url Jar}
    (same : after.trace.sends = before.trace.sends) : newSends before after = [] := by
  rw [newSends, same, List.drop_length]

/-- Requests are sent at one stage only. -/
theorem newSends_ownStep {now : Instant} {task task' : Task World Url Jar}
    {stage : Stage World Url Jar} {event : TaskEvent}
    (stepped : ownStep lua web now task stage event = some task') :
    newSends task task' = [] ∨ ∃ (attempt : Attempt World Jar) (url : Url) (sentAt : Instant),
      stage = .measuring attempt url sentAt ∧
        newSends task task' = [⟨attempt.user.id, attempt.specId, sentAt,
          attempt.user.request web url attempt.spec⟩] := by
  revert stepped
  fun_cases ownStep lua web now task stage event
  all_goals intro stepped
  all_goals cases stepped
  case case12 attempt url sentAt => exact .inr ⟨attempt, url, sentAt, rfl, List.drop_left⟩
  all_goals exact .inl (newSends_of_same rfl)

theorem newSends_poolMove {system : System World Url Jar} {task task' : Task World Url Jar}
    (move : PoolMove system task task') : newSends task task' = [] := by
  apply newSends_of_same
  cases move <;> rfl

/-- A task that goes on within a transaction, or without one, without sending anything. -/
theorem InSession.of_visiting {requests : List (SpecId × HttpRequest)}
    {sent : List (SpecId × HttpRequest)} {task task' : Task World Url Jar}
    (session : Session lua web first requests user)
    (visiting : Visiting lua web user sent task'.stage)
    (same : task'.trace.sends = task.trace.sends) :
    InSession lua web first (requests ++ sent ++ (newSends task task').map Send.content)
      task'.stage := by
  rw [newSends_of_same same, List.map_nil, List.append_nil]
  exact ⟨requests, user, sent, session, visiting, rfl⟩

/-- The end of a transaction. -/
theorem InSession.of_concluded {requests sent : List (SpecId × HttpRequest)}
    {exchange : Exchange} {outcome : Outcome} {current : VirtualUser World Jar}
    {task task' : Task World Url Jar} (session : Session lua web first requests user)
    (ended : user.sendNextRequest lua web exchange = .returned (outcome, current))
    (sentEq : sent = (user.nextRequest lua web exchange.calls).toList)
    (concluded : task'.stage = .concluded current outcome)
    (same : task'.trace.sends = task.trace.sends) :
    InSession lua web first (requests ++ sent ++ (newSends task task').map Send.content)
      task'.stage := by
  have between : Visiting lua web current [] task'.stage := by
    rw [concluded]
    exact ⟨rfl, rfl⟩
  have inSession := InSession.of_visiting (session.next ended) between same
  rw [List.append_nil, ← sentEq] at inSession
  exact inSession

/-- A task that holds a virtual user continues its session. -/
theorem InSession.ownStep {requests : List (SpecId × HttpRequest)} {now : Instant}
    {task task' : Task World Url Jar} {stage : Stage World Url Jar} {event : TaskEvent}
    (inSession : InSession lua web first requests stage)
    (stepped : ownStep lua web now task stage event = some task')
    (calm : ∀ lost, task'.stage ≠ .panicked lost) :
    InSession lua web first (requests ++ (newSends task task').map Send.content)
      task'.stage := by
  rcases inSession with ⟨before, user, sent, session, visiting, rfl⟩
  revert visiting stepped calm
  fun_cases Dispatch.ownStep lua web now task stage event
  all_goals intro stepped
  all_goals cases stepped
  all_goals intro calm visiting
  case case1 | case2 | case17 | case18 => exact visiting.2.elim fun _ impossible => impossible.elim
  case case3 | case4 | case16 => exact .of_visiting session visiting rfl
  case case6 current calls panicked => exact absurd rfl (calm _)
  case case7 current calls err runner failed =>
    obtain ⟨rfl, rfl⟩ := visiting
    have ended : current.sendNextRequest lua web ⟨calls, now, .error (.failed ""), now⟩ =
        .returned (.dropped (some current.id) (.error err.text), { current with runner }) := by
      rw [VirtualUser.sendNextRequest, failed]
      rfl
    exact .of_concluded session ended (by rw [VirtualUser.nextRequest_of_error failed]; rfl) rfl
      rfl
  case case8 current calls handle specId spec runner resolved =>
    obtain ⟨rfl, rfl⟩ := visiting
    exact .of_visiting session
      ⟨rfl, ⟨calls, now, .error (.failed ""), now⟩, runner, resolved, rfl⟩ rfl
  case case9 attempt url located =>
    obtain ⟨rfl, exchange, taken⟩ := visiting
    exact .of_visiting session ⟨rfl, exchange, taken, located⟩ rfl
  case case10 attempt source unresolved =>
    obtain ⟨rfl, exchange, taken⟩ := visiting
    have ended := sendNextRequest_of_taken web taken
    simp only [VirtualUser.execute, unresolved] at ended
    exact .of_concluded session ended (by rw [nextRequest_of_unresolved taken unresolved]; rfl)
      rfl rfl
  case case11 attempt url =>
    obtain ⟨rfl, exchange, taken, located⟩ := visiting
    exact .of_visiting session ⟨rfl, { exchange with sentAt := now }, taken, rfl, located⟩ rfl
  case case12 attempt url sentAt =>
    obtain ⟨rfl, exchange, executing⟩ := visiting
    have request := nextRequest_of_located executing.1 executing.2.2
    refine ⟨before, user, _, session, ⟨exchange, executing, rfl⟩, ?_⟩
    rw [request, List.append_nil]
    exact congrArg (before ++ ·.map Send.content) List.drop_left
  case case13 attempt url sentAt response =>
    obtain ⟨exchange, ⟨taken, timed, located⟩, rfl⟩ := visiting
    exact .of_visiting session ⟨{ exchange with response },
      ⟨attempt, url, taken, timed, rfl, located, rfl⟩, rfl⟩ rfl
  case case14 attempt sentAt response =>
    obtain ⟨exchange, ⟨start, url, taken, rfl, received, located, attemptEq⟩, rfl⟩ := visiting
    exact .of_visiting session ⟨{ exchange with finishedAt := now },
      ⟨start, url, taken, rfl, received, located, attemptEq⟩, rfl⟩ rfl
  case case15 attempt response timing =>
    obtain ⟨exchange, ⟨start, url, taken, rfl, rfl, located, rfl⟩, rfl⟩ := visiting
    have ended := sendNextRequest_of_taken web taken
    simp only [VirtualUser.execute, located] at ended
    exact .of_concluded session ended rfl rfl rfl

end

/-! ## One holder at a time -/

namespace System

variable {system next : System World Url Jar} {loadgeneratorId : LoadGeneratorId}
variable {virtualUserCount : UInt32} {index index' : Nat} {task task' : Task World Url Jar}
variable {id : VirtualUserId}

@[simp]
theorem observe_pool (before after : System World Url Jar) :
    (before.observe after).pool = after.pool := by
  unfold observe
  split_ifs <;> rfl

/-- A virtual user is held by one task. -/
theorem holder_unique (pooled : system.Pooled virtualUserCount)
    (found : system.tasks[index]? = some task) (holds : task.stage.call.user = some id)
    (found' : system.tasks[index']? = some task') (holds' : task'.stage.call.user = some id) :
    index = index' := by
  by_contra apart
  have placed := (Pool.Shared.users_conserved pooled.reachable).placed id
  -- without the first task, the second one still holds the user
  have total := List.sum_map_set (callers_eq found) Pool.Call.idle (Pool.Call.holds id)
  have other : (system.shared.callers.set index .idle)[index']? = some task'.stage.call := by
    rw [List.getElem?_set_ne apart]
    exact callers_eq found'
  have counted : Pool.Call.holds id task'.stage.call ≤
      ((system.shared.callers.set index .idle).map (Pool.Call.holds id)).sum :=
    List.single_le_sum (fun _ _ => Nat.zero_le _) _
      (List.mem_map_of_mem (List.mem_of_getElem? other))
  have one : Pool.Call.holds id task.stage.call = 1 := if_pos holds
  have one' : Pool.Call.holds id task'.stage.call = 1 := if_pos holds'
  have none : Pool.Call.holds id .idle = 0 := rfl
  rw [Pool.Shared.places] at placed
  split_ifs at placed <;> omega

/-- A virtual user that is held is not free. -/
theorem not_free_of_held (pooled : system.Pooled virtualUserCount)
    (found : system.tasks[index]? = some task) (holds : task.stage.call.user = some id)
    {user : VirtualUser World Jar} (free : user ∈ system.pool.users) : user.id ≠ id := by
  rintro rfl
  have placed := (Pool.Shared.users_conserved pooled.reachable).placed user.id
  have counted : Pool.Call.holds user.id task.stage.call ≤
      (system.shared.callers.map (Pool.Call.holds user.id)).sum :=
    List.single_le_sum (fun _ _ => Nat.zero_le _) _
      (List.mem_map_of_mem (List.mem_of_getElem? (callers_eq found)))
  have one : Pool.Call.holds user.id task.stage.call = 1 := if_pos holds
  have member : 0 < (system.shared.pool.users).count user.id :=
    List.count_pos_iff.mpr (List.mem_map_of_mem free)
  rw [Pool.Shared.places] at placed
  split_ifs at placed <;> omega

/-- Every virtual user is free or held. -/
theorem free_or_held (pooled : system.Pooled virtualUserCount)
    (exists_ : id.value < virtualUserCount) :
    (∃ user ∈ system.pool.users, user.id = id) ∨
      ∃ (index : Nat) (task : Task World Url Jar), system.tasks[index]? = some task ∧
        task.stage.call.user = some id := by
  have placed := (Pool.Shared.users_conserved pooled.reachable).placed id
  rw [if_pos exists_, Pool.Shared.places] at placed
  by_cases free : id ∈ system.shared.pool.users
  · exact .inl (List.mem_map.mp free)
  · right
    rw [List.count_eq_zero_of_not_mem free, Nat.zero_add] at placed
    by_contra nobody
    have noHolder : ∀ count ∈ system.shared.callers.map (Pool.Call.holds id), count = 0 := by
      intro count member
      rcases List.mem_map.mp member with ⟨call, callMem, rfl⟩
      rcases List.mem_map.mp callMem with ⟨task, taskMem, rfl⟩
      rcases List.getElem?_of_mem taskMem with ⟨index, found⟩
      exact if_neg fun holds => nobody ⟨index, task, found, holds⟩
    rw [List.sum_eq_zero noHolder] at placed
    cases placed

end System

/-! ## All requests in the order in which they are sent -/

/-- The tasks, the users that the pool was set up with, and all requests so far. -/
structure Journal (World Url Jar : Type) where
  system : System World Url Jar
  setUp : List (VirtualUser World Jar)
  sends : List Send

namespace Journal

variable {loadgeneratorId : LoadGeneratorId} {virtualUserCount : UInt32}

def sendsOfStep (before after : System World Url Jar) : System.Event → List Send
  | .task index _ =>
      match before.tasks[index]?, after.tasks[index]? with
      | some task, some task' => newSends task task'
      | _, _ => []
  | _ => []

def machine (lua : Lua World) (web : WebLibrary Url Jar) (loadgeneratorId : LoadGeneratorId)
    (virtualUserCount : UInt32) : Machine (Journal World Url Jar) System.Event where
  initial journal :=
    (System.machine lua web loadgeneratorId virtualUserCount).initial journal.system ∧
      journal.setUp = journal.system.pool.users ∧ journal.sends = []
  step journal event :=
    ((System.machine lua web loadgeneratorId virtualUserCount).step journal.system event).map
      fun next =>
        { journal with
          system := next
          sends := journal.sends ++ sendsOfStep journal.system next event }

/-- What was sent in the name of a virtual user. -/
def requestsOf (id : VirtualUserId) (sends : List Send) : List (SpecId × HttpRequest) :=
  (sends.filter (·.user = id)).map Send.content

theorem requestsOf_append (id : VirtualUserId) (sends more : List Send) :
    requestsOf id (sends ++ more) = requestsOf id sends ++ requestsOf id more := by
  rw [requestsOf, List.filter_append, List.map_append]
  rfl

theorem requestsOf_own {id : VirtualUserId} {sends : List Send}
    (own : ∀ send ∈ sends, send.user = id) : requestsOf id sends = sends.map Send.content := by
  rw [requestsOf, List.filter_eq_self.mpr fun send member => decide_eq_true (own send member)]

theorem requestsOf_others {id : VirtualUserId} {sends : List Send}
    (others : ∀ send ∈ sends, send.user ≠ id) : requestsOf id sends = [] := by
  rw [requestsOf, List.filter_eq_nil_iff.mpr fun send member => by simpa using others send member]
  rfl

section

variable {system next : System World Url Jar} {event : System.Event}

/-- A task sends in the name of the user that it holds. -/
theorem mem_sendsOfStep (pooled : system.Pooled virtualUserCount)
    (stepped : system.step lua web loadgeneratorId event = some next) {send : Send}
    (member : send ∈ sendsOfStep system next event) :
    ∃ (index : Nat) (taskEvent : TaskEvent) (task : Task World Url Jar)
      (attempt : Attempt World Jar) (url : Url) (sentAt : Instant),
      event = .task index taskEvent ∧ system.tasks[index]? = some task ∧
        task.stage = .measuring attempt url sentAt ∧ send.user = attempt.user.id := by
  unfold sendsOfStep at member
  split at member
  · rename_i index taskEvent
    split at member
    · rename_i task task' found found'
      have same : ∀ {before : Task World Url Jar}, system.tasks[index]? = some before →
          before = task := fun before => Option.some.inj (before.symm.trans found)
      cases System.changed_of_step pooled stepped found' with
      | kept before other => exact absurd rfl (other taskEvent)
      | own before own =>
          rw [same before] at own
          rcases newSends_ownStep own with nothing | ⟨attempt, url, sentAt, measuring, sent⟩
          · rw [nothing] at member
            cases member
          · rw [sent] at member
            cases List.mem_singleton.mp member
            exact ⟨index, taskEvent, task, attempt, url, sentAt, rfl, found, measuring, rfl⟩
      | pooled before move =>
          rw [same before] at move
          rw [newSends_poolMove move] at member
          cases member
      | handed before queued =>
          have nothing : newSends task (task.hand system.now) = [] := newSends_of_same rfl
          rw [same before, nothing] at member
          cases member
    · cases member
  · cases member

/-- The sessions of all virtual users, where they are. -/
structure Sequential (lua : Lua World) (web : WebLibrary Url Jar)
    (setUp : List (VirtualUser World Jar)) (sends : List Send) (system : System World Url Jar) :
    Prop where
  free : ∀ user ∈ system.pool.users, ∃ first ∈ setUp, first.id = user.id ∧
    Session lua web first (requestsOf user.id sends) user
  held : ∀ (index : Nat) (task : Task World Url Jar) (id : VirtualUserId),
    system.tasks[index]? = some task → task.stage.call.user = some id →
      ∃ first ∈ setUp, first.id = id ∧
        InSession lua web first (requestsOf id sends) task.stage

variable {setUp : List (VirtualUser World Jar)} {sends : List Send}

/-- A step sends nothing in the name of a user whom its task does not hold. -/
theorem requestsOf_sendsOfStep (pooled : system.Pooled virtualUserCount)
    (stepped : system.step lua web loadgeneratorId event = some next) {id : VirtualUserId}
    (others : ∀ (index : Nat) (taskEvent : TaskEvent) (task : Task World Url Jar)
      (attempt : Attempt World Jar) (url : Url) (sentAt : Instant),
      event = .task index taskEvent → system.tasks[index]? = some task →
        task.stage = .measuring attempt url sentAt → attempt.user.id ≠ id) :
    requestsOf id (sends ++ sendsOfStep system next event) = requestsOf id sends := by
  have noneSent : requestsOf id (sendsOfStep system next event) = [] := by
    apply requestsOf_others
    intro send member
    rcases mem_sendsOfStep pooled stepped member with
      ⟨index, taskEvent, task, attempt, url, sentAt, isTask, found, measuring, userEq⟩
    rw [userEq]
    exact others index taskEvent task attempt url sentAt isTask found measuring
  rw [requestsOf_append, noneSent, List.append_nil]

theorem call_user_of_measuring {task : Task World Url Jar} {attempt : Attempt World Jar}
    {url : Url} {sentAt : Instant} (measuring : task.stage = .measuring attempt url sentAt) :
    task.stage.call.user = some attempt.user.id := by
  rw [measuring]
  rfl

theorem Sequential.freeStep (sequential : Sequential lua web setUp sends system)
    (pooled : system.Pooled virtualUserCount)
    (stepped : system.step lua web loadgeneratorId event = some next)
    {user : VirtualUser World Jar} (member : user ∈ next.pool.users) :
    ∃ first ∈ setUp, first.id = user.id ∧ Session lua web first
      (requestsOf user.id (sends ++ sendsOfStep system next event)) user := by
  rcases System.users_of_step stepped member with old | ⟨position, releaser, after, found, releasing⟩
  · rw [requestsOf_sendsOfStep pooled stepped]
    · exact sequential.free user old
    · intro index taskEvent task attempt url sentAt _ found measuring same
      exact System.not_free_of_held pooled found (call_user_of_measuring measuring) old same.symm
  · have holds : releaser.stage.call.user = some user.id := by
      rw [releasing]
      rfl
    rw [requestsOf_sendsOfStep pooled stepped]
    · rcases sequential.held position releaser user.id found holds with
        ⟨first, setUpMem, idEq, before, current, sent, session, visiting, requestsEq⟩
      rw [releasing] at visiting
      obtain ⟨rfl, rfl⟩ := visiting
      rw [List.append_nil] at requestsEq
      exact ⟨first, setUpMem, idEq, requestsEq ▸ session⟩
    · intro index taskEvent task attempt url sentAt _ found' measuring same
      have holds' := call_user_of_measuring measuring
      rw [same] at holds'
      obtain rfl := System.holder_unique pooled found holds found' holds'
      cases found.symm.trans found'
      rw [measuring] at releasing
      cases releasing

theorem Sequential.heldStep (sequential : Sequential lua web setUp sends system)
    (pooled : system.Pooled virtualUserCount) (calm : next.Accounted)
    (stepped : system.step lua web loadgeneratorId event = some next) {position : Nat}
    {task : Task World Url Jar} {id : VirtualUserId} (found : next.tasks[position]? = some task)
    (holds : task.stage.call.user = some id) :
    ∃ first ∈ setUp, first.id = id ∧ InSession lua web first
      (requestsOf id (sends ++ sendsOfStep system next event)) task.stage := by
  cases System.changed_of_step pooled stepped found with
  | dispatched started new => cases holds
  | handed before queued => cases holds
  | kept before other =>
      rw [requestsOf_sendsOfStep pooled stepped]
      · exact sequential.held position task id before holds
      · rintro index taskEvent sender attempt url sentAt rfl found' measuring rfl
        exact other taskEvent (congrArg (System.Event.task · taskEvent)
          (System.holder_unique pooled found' (call_user_of_measuring measuring) before holds))
  | @pooled _ taskEvent before _ beforeEq move =>
      cases move with
      | @takeUser waited user stageEq member =>
          have idEq : user.id = id := by
            cases waited <;> exact Option.some.inj holds
          subst idEq
          rw [requestsOf_sendsOfStep pooled stepped]
          · rcases sequential.free user member with ⟨first, setUpMem, same, session⟩
            refine ⟨first, setUpMem, same, _, user, [], session, ?_, (List.append_nil _).symm⟩
            cases waited <;> exact ⟨rfl, rfl⟩
          · intro index taskEvent sender attempt url sentAt _ found' measuring same
            exact System.not_free_of_held pooled found' (call_user_of_measuring measuring) member
              same.symm
      | _ => cases holds
  | @own _ taskEvent before _ beforeEq own =>
      have held : before.stage.call.user = some id := by
        rcases ownStep_call own with same | ⟨held, holding, releasing⟩
        · rw [← same]
          exact holds
        · rw [releasing] at holds
          rw [holding]
          exact holds
      have sent : sendsOfStep system next (.task position taskEvent) = newSends before task := by
        simp only [sendsOfStep, beforeEq, found]
      have requests : requestsOf id (newSends before task) =
          (newSends before task).map Send.content := by
        apply requestsOf_own
        intro send member
        rcases newSends_ownStep own with nothing | ⟨attempt, url, sentAt, measuring, one⟩
        · rw [nothing] at member
          cases member
        · rw [one] at member
          cases List.mem_singleton.mp member
          exact Option.some.inj ((call_user_of_measuring measuring).symm.trans held)
      rcases sequential.held position before id beforeEq held with
        ⟨first, setUpMem, same, inSession⟩
      refine ⟨first, setUpMem, same, ?_⟩
      rw [requestsOf_append, sent, requests]
      apply inSession.ownStep own
      intro lost panicked
      have trace := calm.tasks position task found
      unfold Task.Accounted at trace
      rw [panicked] at trace
      exact trace

end

/-- What is true of the sessions in every run. -/
structure Sound (lua : Lua World) (web : WebLibrary Url Jar)
    (loadgeneratorId : LoadGeneratorId) (virtualUserCount : UInt32)
    (journal : Journal World Url Jar) : Prop where
  reachable : (System.machine lua web loadgeneratorId virtualUserCount).Reachable journal.system
  ids : journal.setUp.map VirtualUser.id = Pool.userIds virtualUserCount
  sequential : Sequential lua web journal.setUp journal.sends journal.system

theorem sound_of_reachable {journal : Journal World Url Jar}
    (reachable : (machine lua web loadgeneratorId virtualUserCount).Reachable journal) :
    journal.Sound lua web loadgeneratorId virtualUserCount := by
  apply reachable.invariant
  · rintro ⟨system, setUp, sends⟩ ⟨initial, setUpEq, noSends⟩
    obtain rfl : setUp = system.pool.users := setUpEq
    obtain rfl : sends = [] := noSends
    refine ⟨.start initial, ?_, ?_, ?_⟩
    · rcases initial.1 with ⟨Failure, setup, isSetUp, built⟩
      exact Pool.map_setUpUsers (fun id user ready => (isSetUp id user ready).1)
        (Pool.withClientAndRng_eq_ok built).1
    · intro user member
      exact ⟨user, member, rfl, .start⟩
    · intro index task id found
      rw [show system.tasks = [] from initial.2.2.1] at found
      cases found
  · rintro ⟨system, setUp, sends⟩ event next sound _ stepped
    rcases Option.map_eq_some_iff.mp stepped with ⟨after, systemStep, rfl⟩
    have reached := Machine.ReachableBy.step sound.reachable trivial systemStep
    refine ⟨reached, sound.ids, ?_⟩
    rcases Option.map_eq_some_iff.mp systemStep with ⟨moved, step, rfl⟩
    have pooled := System.pooled_of_reachable sound.reachable
    have calm := (System.accounted_of_reachable sound.reachable).step pooled step
    have sent : sendsOfStep system (system.observe moved) event =
        sendsOfStep system moved event := by
      simp only [sendsOfStep, System.observe_tasks]
    constructor
    · intro user member
      rw [System.observe_pool] at member
      rw [sent]
      exact sound.sequential.freeStep pooled step member
    · intro index task id found holds
      rw [System.observe_tasks] at found
      rw [sent]
      exact sound.sequential.heldStep pooled calm step found holds

/-- What was sent in the name of a virtual user is a session, and the user that it leaves
behind is in one place. -/
inductive OneClient (lua : Lua World) (web : WebLibrary Url Jar) (journal : Journal World Url Jar)
    (first : VirtualUser World Jar) : Prop
  | free {user : VirtualUser World Jar} :
      Session lua web first (requestsOf first.id journal.sends) user →
      user ∈ journal.system.pool.users →
      (∀ task ∈ journal.system.tasks, task.stage.call.user ≠ some first.id) →
        OneClient lua web journal first
  /-- The task may have sent the next request of the session already. -/
  | held {index : Nat} {task : Task World Url Jar} :
      journal.system.tasks[index]? = some task →
      InSession lua web first (requestsOf first.id journal.sends) task.stage →
      (∀ (other : Nat) (task' : Task World Url Jar),
        journal.system.tasks[other]? = some task' →
          (task'.stage.call.user = some first.id ↔ other = index)) →
      (∀ user ∈ journal.system.pool.users, user.id ≠ first.id) →
        OneClient lua web journal first

/-- Whatever the order in which the tasks take their steps, each virtual user is one client
that sends its requests one after another. -/
theorem sessions_sequential {journal : Journal World Url Jar}
    (reachable : (machine lua web loadgeneratorId virtualUserCount).Reachable journal)
    {first : VirtualUser World Jar} (member : first ∈ journal.setUp) :
    OneClient lua web journal first := by
  have sound := sound_of_reachable reachable
  have pooled := System.pooled_of_reachable sound.reachable
  have inRange : first.id.value < virtualUserCount := by
    have counted := Pool.count_userIds virtualUserCount first.id
    rw [← sound.ids] at counted
    by_contra outside
    rw [if_neg outside] at counted
    exact List.count_eq_zero.mp counted (List.mem_map_of_mem member)
  -- the users that were set up differ in their ids
  have distinct : (journal.setUp.map VirtualUser.id).Nodup := by
    rw [sound.ids]
    exact Pool.nodup_userIds virtualUserCount
  have unique : ∀ other ∈ journal.setUp, other.id = first.id → other = first :=
    fun other otherMem same => List.inj_on_of_nodup_map distinct otherMem member same
  rcases System.free_or_held pooled inRange with ⟨user, free, idEq⟩ | ⟨index, task, found, holds⟩
  · rcases sound.sequential.free user free with ⟨other, otherMem, same, session⟩
    cases unique other otherMem (same.trans idEq)
    rw [idEq] at session
    refine .free session free ?_
    intro task taskMem holds
    rcases List.getElem?_of_mem taskMem with ⟨index, found⟩
    exact System.not_free_of_held pooled found holds free idEq
  · rcases sound.sequential.held index task first.id found holds with
      ⟨other, otherMem, same, inSession⟩
    cases unique other otherMem same
    refine .held found inSession ?_ ?_
    · intro other task' found'
      constructor
      · intro holds'
        exact System.holder_unique pooled found' holds' found holds
      · rintro rfl
        cases found.symm.trans found'
        exact holds
    · intro user free
      exact System.not_free_of_held pooled found holds free

/-- The second transaction of a user has sent its request, and the first one is over. -/
theorem sessions_sequential_twoRequests :
    ∃ journal : Journal Unit String Unit, journal.sends.map (·.sentAt) = [0, 3000000] ∧
      ∃ first ∈ journal.setUp, OneClient OneUser.lua OneUser.web journal first := by
  have initial : (machine OneUser.lua OneUser.web ⟨0⟩ 1).initial
      ⟨OneUser.start, [OneUser.user ⟨0⟩], []⟩ := ⟨OneUser.initial, rfl, rfl⟩
  have ⟨journal, reachable, checked⟩ := Machine.exists_reachable_of_exec _ initial
    [OneUser.dispatch 0, .task 0 .checkDeadline, .task 0 .tryAcquire,
      .task 0 (.takeRandomUser 0), .task 0 (.nextUserSpec 0), .task 0 .resolveUrl,
      .task 0 .measure, .task 0 .send, .tick 3000000, OneUser.dispatch 2000000,
      .task 0 (.receive (.ok ⟨200, [], none⟩)), .task 1 .checkDeadline, .task 1 .tryAcquire,
      .task 1 .acquire, .task 0 .finish, .task 0 .judge, .task 0 .convert, .task 0 .push,
      .task 0 .addPermits, .task 1 .resume, .task 1 (.takeRandomUser 0),
      .task 1 .checkDeadline, .task 1 (.nextUserSpec 0), .task 1 .resolveUrl, .task 1 .measure,
      .task 1 .send]
    (fun journal => decide (journal.sends.map (·.sentAt) = [0, 3000000] ∧
      journal.setUp.length = 1))
    (by decide +kernel)
  rcases of_decide_eq_true checked with ⟨sent, one⟩
  have member := List.getElem_mem (one ▸ Nat.one_pos : 0 < journal.setUp.length)
  exact ⟨journal, sent, _, member, sessions_sequential reachable member⟩

end Journal

end Dispatch

end CreoBench
