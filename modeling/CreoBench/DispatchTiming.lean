import CreoBench.DispatchResults

/-!
# When requests are sent and why they are dropped

The tolerance is checked when a task first runs and when it has waited for a
user.  What the script and the URL take after the last check is not: a request
is sent on time exactly if they are done by the deadline.  A drop for want of a
user is blamed on the pool rightly exactly if nobody overtook the task before it
was in the queue and no permit was handed to it in time, and a drop for lateness
is blamed on the generator without a look at the pool.
-/

namespace CreoBench

namespace Dispatch

variable {World Url Jar : Type}

/-! ## Sending on time -/

/-- A request of the result was sent within the tolerance of its scheduled arrival. -/
def SentOnTime (result : TransactionResult) : Prop :=
  ∀ metadata, result.metadata = some metadata →
    metadata.sendTime.duration - metadata.startTime.duration ≤ dropTolerance

/-- Every request of the task was, or is about to be, sent by the deadline. -/
structure Task.Prompt (task : Task World Url Jar) : Prop where
  sends : ∀ send ∈ task.trace.sends, send.sentAt ≤ task.deadline
  measuring : ∀ attempt url sentAt, task.stage = .measuring attempt url sentAt →
    sentAt ≤ task.deadline

theorem Describes.sentOnTime_iff {transaction : Transaction} {trace : Trace World Jar}
    {result : TransactionResult} (describes : Describes transaction trace result) :
    SentOnTime result ↔ ∀ send ∈ trace.sends,
      send.sentAt ≤ transaction.startTime.instant.instant + dropTolerance := by
  have sends := describes.sends
  unfold DescribesSends at sends
  unfold SentOnTime
  cases metadata : result.metadata with
  | none =>
      rw [metadata] at sends
      simp [sends]
  | some metadata' =>
      rw [metadata] at sends
      rcases sends with ⟨sentAt, request, sent, startTime, sendTime⟩
      have waited : metadata'.sendTime.duration - metadata'.startTime.duration =
          sentAt - transaction.startTime.instant.instant := by
        rw [startTime, sendTime]
        exact Nat.add_sub_cancel_left ..
      simp only [sent, List.mem_singleton, forall_eq, Option.some.injEq, forall_eq', waited]
      exact Nat.sub_le_iff_le_add'

/-- A request that waits for its URL is sent by the deadline. -/
def System.Punctual (system : System World Url Jar) (event : System.Event) : Prop :=
  ∀ index, event = .task index .measure → ∀ task, system.tasks[index]? = some task →
    system.now ≤ task.deadline

namespace System

variable {system next : System World Url Jar} {lua : Lua World} {web : WebLibrary Url Jar}
variable {loadgeneratorId : LoadGeneratorId} {virtualUserCount : UInt32}

/-- A logged request was late exactly if its measurement began after the deadline. -/
theorem sentOnTime_iff
    (reachable : (machine lua web loadgeneratorId virtualUserCount).Reachable system)
    {index : Nat} {task : Task World Url Jar} (found : system.tasks[index]? = some task)
    {result : TransactionResult} (member : result ∈ task.trace.logged) :
    SentOnTime result ↔ ∀ send ∈ task.trace.sends, send.sentAt ≤ task.deadline := by
  have trace := (accounted_of_reachable reachable).tasks index task found
  have finished : task.stage = .finished := by
    by_contra unfinished
    rw [trace.noLog unfinished] at member
    cases member
  unfold Task.Accounted at trace
  rw [finished] at trace
  rcases trace with ⟨logged, loggedEq, describes⟩
  rw [loggedEq, List.mem_singleton] at member
  rw [member]
  exact describes.sentOnTime_iff

end System

namespace OneUser

/-- A transaction that is due at once and whose script takes `delay` to find its spec. -/
def slowScript (delay : Duration) : List System.Event :=
  [dispatch 0, .task 0 .checkDeadline, .task 0 .tryAcquire, .task 0 (.takeRandomUser 0),
    .tick delay, .task 0 (.nextUserSpec 0), .task 0 .resolveUrl, .task 0 .measure,
    .task 0 .send, .task 0 (.receive (.ok ⟨200, [], none⟩)), .task 0 .finish, .task 0 .judge,
    .task 0 .convert, .task 0 .push, .task 0 .addPermits, .task 0 .logResult]

def punctual (system : System Unit String Unit) : System.Event → Bool
  | .task index .measure => (system.tasks[index]?).all fun task => system.now ≤ task.deadline
  | _ => true

end OneUser

end Dispatch

end CreoBench
