import CreoBench.Library.ListIndex
import CreoBench.ReportAlignment

/-!
# No result is lost on the way into the reports

Every dispatched transaction is in flight until its result is logged, and every
logged result is pending until the next snapshot carries it away.  Results leave
through snapshots, but the drain loop ends as soon as nothing is in flight.  So
the results that are logged after the last snapshot decide whether all results
are reported.
-/

open scoped List

namespace CreoBench

namespace ReadyHandle

/-- The results logged after `reportsBefore` reports were built. -/
def resultsAfter (logged : List Logged) (reportsBefore : Nat) : List TransactionResult :=
  (logged.filter (·.reportsBefore = reportsBefore)).map (·.result)

/-- The results that the next snapshot will carry. -/
def pendingResults (handle : ReadyHandle) : List TransactionResult :=
  handle.tracker.interval.transactionResults

/-- Where transactions and their results are. -/
structure Conserved (handle : ReadyHandle) : Prop where
  dispatched : handle.tracker.dispatched = handle.history.dispatched.length
  totals : handle.tracker.total.sum = handle.history.logged.length
  tasks : (handle.tasks ++ handle.history.logged.map (·.task)).Perm
    handle.history.dispatched

/-- Where the results go as long as no send fails. -/
structure Delivered (handle : ReadyHandle) : Prop where
  flow : handle.reports.flatMap (·.results) ++ handle.pendingResults =
    handle.history.logged.map (·.result)
  reported : ∀ index report, handle.reports[index]? = some report →
    report.results = resultsAfter handle.history.logged index
  pending : handle.pendingResults =
    resultsAfter handle.history.logged handle.reports.length
  bounded : ∀ entry ∈ handle.history.logged, entry.reportsBefore ≤ handle.reports.length

theorem conserved_new (loadgeneratorId : LoadGeneratorId) (profile : LoadProfile)
    (warmup : Warmup) (now : Instant) :
    (new loadgeneratorId profile warmup now).Conserved :=
  ⟨rfl, rfl, List.Perm.nil⟩

theorem delivered_new (loadgeneratorId : LoadGeneratorId) (profile : LoadProfile)
    (warmup : Warmup) (now : Instant) :
    (new loadgeneratorId profile warmup now).Delivered :=
  ⟨rfl, nofun, rfl, nofun⟩

/-- The number in flight, as the drain loop sees it. -/
theorem Conserved.inflightCount {handle : ReadyHandle} (conserved : handle.Conserved) :
    handle.tracker.inflightCount = handle.tasks.length := by
  have lengths := conserved.tasks.length_eq
  rw [List.length_append, List.length_map] at lengths
  rw [Tracker.inflightCount, conserved.dispatched, conserved.totals]
  omega

theorem Conserved.step {handle next : ReadyHandle} {event : Event}
    (conserved : handle.Conserved) (stepped : handle.step event = some next) :
    next.Conserved := by
  obtain ⟨dispatched, totals, tasks⟩ := conserved
  cases event with
  | tick elapsed =>
      cases stepped
      exact ⟨dispatched, totals, tasks⟩
  | pace gaps =>
      cases pace_cases stepped with
      | quiet | announced | receiverDropped => exact ⟨dispatched, totals, tasks⟩
      | @dispatched _ _ transaction =>
          refine ⟨?_, totals, ?_⟩
          · rw [List.length_append, ← dispatched]
            rfl
          · calc handle.tasks ++ [⟨handle.phase, transaction⟩] ++
                  handle.history.logged.map (·.task)
                _ ~ handle.tasks ++ handle.history.logged.map (·.task) ++
                    [⟨handle.phase, transaction⟩] := by
                  rw [List.append_assoc, List.append_assoc]
                  exact List.perm_append_comm.append_left _
                _ ~ handle.history.dispatched ++ [⟨handle.phase, transaction⟩] :=
                  tasks.append_right _
  | report =>
      obtain ⟨tasksEq, dispatchedEq, loggedEq, effect⟩ := report_effect stepped
      have counters : next.tracker.dispatched = handle.tracker.dispatched ∧
          next.tracker.total = handle.tracker.total := by
        rcases effect with ⟨trackerEq, -⟩ | ⟨trackerEq, -⟩ <;>
          rw [trackerEq] <;> exact ⟨rfl, rfl⟩
      exact ⟨by rw [counters.1, dispatchedEq, dispatched],
        by rw [counters.2, loggedEq, totals], by rw [tasksEq, loggedEq, dispatchedEq]; exact tasks⟩
  | sendFails =>
      obtain rfl := sendFails_eq_some stepped
      exact ⟨dispatched, totals, tasks⟩
  | complete index outcome finishedAt =>
      obtain ⟨task, found, rfl⟩ := complete_eq_some stepped
      refine ⟨dispatched, ?_, ?_⟩
      · simp [Tracker.logResult, totals]
      · calc handle.tasks.eraseIdx index ++ List.map Logged.task (handle.history.logged ++ [_])
            _ ~ task :: handle.tasks.eraseIdx index ++ handle.history.logged.map (·.task) := by
              rw [List.map_append, ← List.append_assoc]
              exact List.perm_append_comm
            _ ~ handle.tasks ++ handle.history.logged.map (·.task) :=
              (List.perm_cons_eraseIdx found).symm.append_right _
            _ ~ handle.history.dispatched := tasks

/-- A snapshot moves the pending results into the next report. -/
private theorem Delivered.snapshot {handle next : ReadyHandle} {report : IntervalReport}
    (delivered : handle.Delivered) (reportsEq : next.reports = handle.reports ++ [report])
    (resultsEq : report.results = handle.pendingResults)
    (pendingEq : next.pendingResults = [])
    (loggedEq : next.history.logged = handle.history.logged) : next.Delivered := by
  obtain ⟨flow, reported, pending, bounded⟩ := delivered
  refine ⟨?_, ?_, ?_, ?_⟩
  · rw [reportsEq, loggedEq, pendingEq, ← flow, List.flatMap_append, List.append_nil,
      ← resultsEq]
    simp
  · intro index later found
    rw [reportsEq] at found
    rw [loggedEq]
    rcases List.getElem?_concat_eq_some.mp found with old | ⟨rfl, rfl⟩
    · exact reported index later old
    · rw [resultsEq, pending]
  · rw [pendingEq, loggedEq, reportsEq, List.length_append, List.length_singleton, resultsAfter,
      List.filter_eq_nil_iff.mpr]
    · rfl
    · intro entry member
      have := bounded entry member
      simp only [decide_eq_true_eq]
      omega
  · intro entry member
    rw [loggedEq] at member
    rw [reportsEq, List.length_append]
    exact Nat.le_add_right_of_le (bounded entry member)

/-- A logged result becomes pending. -/
private theorem Delivered.log {handle : ReadyHandle} (delivered : handle.Delivered)
    (tasks : List Task) (entry : Logged)
    (entryEq : entry.reportsBefore = handle.reports.length) :
    { handle with
      tasks
      tracker := handle.tracker.logResult entry.result
      history.logged := handle.history.logged ++ [entry] }.Delivered := by
  obtain ⟨flow, reported, pending, bounded⟩ := delivered
  refine ⟨?_, ?_, ?_, ?_⟩
  · change handle.reports.flatMap (·.results) ++ (handle.pendingResults ++ [entry.result]) =
      (handle.history.logged ++ [entry]).map (·.result)
    rw [← List.append_assoc, flow, List.map_append]
    rfl
  · intro index report found
    obtain ⟨bound, -⟩ := List.getElem?_eq_some_iff.mp found
    change index < handle.reports.length at bound
    have other : ¬ entry.reportsBefore = index := by omega
    rw [reported index report found, resultsAfter, resultsAfter, List.filter_append,
      List.filter_cons_of_neg (by simpa using other)]
    simp
  · change handle.pendingResults ++ [entry.result] =
      resultsAfter (handle.history.logged ++ [entry]) handle.reports.length
    rw [pending, resultsAfter, resultsAfter, List.filter_append,
      List.filter_cons_of_pos (by simpa using entryEq), List.map_append]
    rfl
  · intro logged member
    rcases List.mem_append.mp member with old | new
    · exact bounded logged old
    · rw [List.mem_singleton.mp new, entryEq]
      exact Nat.le_refl _

theorem Delivered.step {handle next : ReadyHandle} {event : Event}
    (delivered : handle.Delivered) (notFailed : event ≠ .sendFails)
    (stepped : handle.step event = some next) : next.Delivered := by
  cases event with
  | tick elapsed =>
      cases stepped
      exact ⟨delivered.flow, delivered.reported, delivered.pending, delivered.bounded⟩
  | pace gaps =>
      cases pace_cases stepped <;>
        exact ⟨delivered.flow, delivered.reported, delivered.pending, delivered.bounded⟩
  | report =>
      obtain ⟨-, -, loggedEq, ⟨trackerEq, reportsEq⟩ | ⟨trackerEq, report, reportsEq, statsEq⟩⟩ :=
        report_effect stepped
      · have pendingEq : next.pendingResults = handle.pendingResults := by
          rw [pendingResults, pendingResults, trackerEq]
        exact ⟨by rw [reportsEq, pendingEq, loggedEq, delivered.flow],
          by rw [reportsEq, loggedEq]; exact delivered.reported,
          by rw [reportsEq, loggedEq, pendingEq, delivered.pending],
          by rw [reportsEq, loggedEq]; exact delivered.bounded⟩
      · exact delivered.snapshot reportsEq (by rw [IntervalReport.results, statsEq]; rfl)
          (by rw [pendingResults, trackerEq]; rfl) loggedEq
  | sendFails => exact absurd rfl notFailed
  | complete index outcome finishedAt =>
      obtain ⟨task, -, rfl⟩ := complete_eq_some stepped
      exact delivered.log _ ⟨task, _, _⟩ rfl

/-- A drain round that has begun is bound to take one more snapshot. -/
def Reporter.inDrainRound : Reporter → Bool
  | .clock _ | .sleepDrain .. => true
  | _ => false

/-- All reports at fixed times are built, and no drain round has begun that would
build another one. -/
def LastReportBuilt (handle : ReadyHandle) : Prop :=
  handle.scheduledReports ≤ handle.reports.length ∧ ¬ handle.reporter.inDrainRound

/-- The condition under which no result is lost: the only transaction in flight
never ends while no further report is bound to be built. -/
def KeepsLastResult (handle : ReadyHandle) : Event → Prop
  | .complete .. => ¬ (handle.LastReportBuilt ∧ handle.tasks.length = 1)
  | .sendFails => False
  | _ => True

/-- Nothing is pending any more once nothing is in flight and no further report is
bound to be built. -/
def Settled (handle : ReadyHandle) : Prop :=
  handle.reporter ≠ .failed → handle.LastReportBuilt → handle.tasks = [] →
    handle.pendingResults = []

/-- The update that comes after all reports. -/
def Reporter.finalUpdate : Reporter → List GeneratorUpdate
  | .finished => [.finished]
  | _ => []

/-- The final update is only sent with nothing in flight, and nothing follows it. -/
structure Ended (handle : ReadyHandle) : Prop where
  idle : handle.reporter = .finish ∨ handle.reporter = .finished → handle.tasks = []
  sent : handle.sent =
    (reportsIn handle.sent).map .intervalReport ++ handle.reporter.finalUpdate

/-- A drain round ends with a snapshot, unless the reporter panics. -/
private theorem inDrainRound_kept {handle next : ReadyHandle}
    (reported : handle.report = some next) (inRound : handle.reporter.inDrainRound) :
    next.reporter.inDrainRound ∨ next.reporter = .failed ∨ next.pendingResults = [] := by
  cases report_cases reported with
  | startWarmup reporterEq | stepReceived reporterEq | phaseEnded reporterEq
  | pauseEnded reporterEq | startLoad reporterEq | inflight reporterEq
  | drained reporterEq | sent reporterEq | finished reporterEq =>
      rw [reporterEq] at inRound
      cases inRound
  | stepReported | secondReported | drainReported => exact .inr (.inr rfl)
  | clockRead => exact .inl rfl
  | panicked => exact .inr (.inl rfl)

private theorem Settled.report {handle next : ReadyHandle} (settled : handle.Settled)
    (reported : handle.report = some next) : next.Settled := by
  intro notFailed built none
  obtain ⟨tasksEq, -, -, ⟨trackerEq, reportsEq⟩ | ⟨trackerEq, -⟩⟩ := report_effect reported
  · have alive : handle.reporter ≠ .failed := by
      intro failed
      simp [ReadyHandle.report, failed] at reported
    have sameLoad : next.scheduledReports = handle.scheduledReports := by
      cases report_cases reported <;> rfl
    by_cases inRound : handle.reporter.inDrainRound
    · rcases inDrainRound_kept reported inRound with still | failed | taken
      · exact absurd still built.2
      · exact absurd failed notFailed
      · exact taken
    · rw [pendingResults, trackerEq]
      refine settled alive ⟨?_, inRound⟩ (by rw [← tasksEq, none])
      rw [← sameLoad, ← reportsEq]
      exact built.1
  · rw [pendingResults, trackerEq]
    rfl

theorem Settled.step {handle next : ReadyHandle} {event : Event}
    (settled : handle.Settled) (keeps : handle.KeepsLastResult event)
    (stepped : handle.step event = some next) : next.Settled := by
  cases event with
  | tick elapsed =>
      cases stepped
      exact settled
  | pace gaps =>
      cases pace_cases stepped with
      | quiet | announced | receiverDropped => exact settled
      | dispatched => exact fun _ _ none => absurd none (by simp)
  | report => exact settled.report stepped
  | sendFails => exact absurd keeps id
  | complete index outcome finishedAt =>
      obtain ⟨task, found, rfl⟩ := complete_eq_some stepped
      intro notFailed built none
      obtain ⟨bound, -⟩ := List.getElem?_eq_some_iff.mp found
      have lengthEq := List.length_eraseIdx_of_lt bound
      have noneLeft : (handle.tasks.eraseIdx index).length = 0 := by
        rw [List.length_eq_zero_iff]
        exact none
      exact absurd ⟨built, by omega⟩ keeps

theorem Ended.finished {handle : ReadyHandle} (ended : handle.Ended)
    (finished : .finished ∈ handle.sent) : handle.reporter = .finished := by
  have sent := ended.sent
  cases reporterEq : handle.reporter with
  | finished => rfl
  | _ =>
      rw [reporterEq] at sent
      rw [sent, Reporter.finalUpdate] at finished
      · simp at finished
      all_goals nofun

private theorem Ended.report {handle next : ReadyHandle} (ended : handle.Ended)
    (conserved : handle.Conserved) (reported : handle.report = some next) : next.Ended := by
  obtain ⟨idle, sent⟩ := ended
  cases report_cases reported with
  | startWarmup reporterEq | stepReceived reporterEq | phaseEnded reporterEq
  | stepReported reporterEq | secondReported reporterEq | pauseEnded reporterEq
  | startLoad reporterEq | inflight reporterEq | clockRead reporterEq
  | drainReported reporterEq =>
      rw [reporterEq] at sent
      exact ⟨by rintro (finish | finished) <;> contradiction, sent⟩
  | drained reporterEq none =>
      rw [reporterEq] at sent
      rw [conserved.inflightCount] at none
      exact ⟨fun _ => List.length_eq_zero_iff.mp none, sent⟩
  | @sent report head reporterEq =>
      rw [reporterEq] at sent
      refine ⟨by rintro (finish | finished) <;> contradiction, ?_⟩
      change handle.sent ++ [.intervalReport report] =
        (reportsIn (handle.sent ++ [.intervalReport report])).map .intervalReport ++ []
      rw [reportsIn_append, List.map_append, List.append_nil]
      exact congrArg (· ++ [.intervalReport report]) (sent.trans (List.append_nil _))
  | finished reporterEq =>
      rw [reporterEq] at sent
      refine ⟨fun _ => idle (.inl reporterEq), ?_⟩
      change handle.sent ++ [.finished] =
        (reportsIn (handle.sent ++ [.finished])).map .intervalReport ++ [.finished]
      rw [reportsIn_append, reportsIn_finished, List.append_nil]
      exact congrArg (· ++ [.finished]) (sent.trans (List.append_nil _))
  | panicked =>
      refine ⟨by rintro (finish | finished) <;> contradiction, ?_⟩
      have notFinished : handle.reporter ≠ .finished := by
        intro finished
        simp [ReadyHandle.report, finished] at reported
      rwa [Reporter.finalUpdate.eq_2 _ notFinished] at sent

theorem Ended.step {handle next : ReadyHandle} {event : Event} (ended : handle.Ended)
    (conserved : handle.Conserved) (aligned : handle.Aligned)
    (stepped : handle.step event = some next) : next.Ended := by
  obtain ⟨idle, sent⟩ := ended
  cases event with
  | tick elapsed =>
      cases stepped
      exact ⟨idle, sent⟩
  | pace gaps =>
      have same := sameReports_pace stepped
      refine ⟨?_, by rw [same.sent, same.reporter]; exact sent⟩
      rw [same.reporter]
      intro atEnd
      -- the pacer has nothing to do once the drain loop is over
      have isIdle : handle.Idle := by
        unfold Aligned at aligned
        rcases atEnd with finish | finished
        · rw [finish] at aligned
          exact aligned.2
        · rw [finished] at aligned
          exact aligned.2
      exact absurd stepped isIdle.pace
  | report => exact Ended.report ⟨idle, sent⟩ conserved stepped
  | sendFails =>
      have notFinished : handle.reporter ≠ .finished := by
        intro finished
        simp [ReadyHandle.step, ReadyHandle.sendFails, finished] at stepped
      obtain rfl := sendFails_eq_some stepped
      refine ⟨by rintro (finish | finished) <;> contradiction, ?_⟩
      rwa [Reporter.finalUpdate.eq_2 _ notFinished] at sent
  | complete index outcome finishedAt =>
      obtain ⟨task, found, rfl⟩ := complete_eq_some stepped
      refine ⟨fun atEnd => ?_, sent⟩
      rw [idle atEnd] at found
      cases found

/-- What a generator owes when it sends its final update: each dispatched transaction
has logged exactly one result, the reports sent before carry exactly these results,
and none is left behind. -/
def ReportsEveryResult (handle : ReadyHandle) : Prop :=
  handle.history.logged.map (·.task) ~ handle.history.dispatched ∧
    (∃ reports : List IntervalReport,
      handle.sent = reports.map .intervalReport ++ [.finished] ∧
        reports.flatMap (·.results) ~ handle.history.logged.map (·.result)) ∧
      handle.pendingResults = []

/-- The invariants of a run that keeps the last result. -/
structure Accounted (handle : ReadyHandle) : Prop where
  aligned : handle.Aligned
  conserved : handle.Conserved
  delivered : handle.Delivered
  settled : handle.Settled
  ended : handle.Ended

theorem Accounted.step {handle next : ReadyHandle} {event : Event}
    (accounted : handle.Accounted) (keeps : handle.KeepsLastResult event)
    (stepped : handle.step event = some next) : next.Accounted := by
  have notFailed : event ≠ .sendFails := by
    rintro rfl
    exact keeps
  exact ⟨accounted.aligned.step stepped, accounted.conserved.step stepped,
    accounted.delivered.step notFailed stepped, accounted.settled.step keeps stepped,
    accounted.ended.step accounted.conserved accounted.aligned stepped⟩

theorem accounted_of_reachableBy {handle : ReadyHandle}
    (reachable : machine.ReachableBy KeepsLastResult handle) : handle.Accounted := by
  refine reachable.invariant ?_ fun _ _ _ invariant keeps stepped =>
    invariant.step keeps stepped
  rintro _ ⟨loadgeneratorId, profile, warmup, now, rfl⟩
  exact ⟨aligned_new loadgeneratorId profile warmup now,
    conserved_new loadgeneratorId profile warmup now,
    delivered_new loadgeneratorId profile warmup now, fun _ _ _ => rfl,
    ⟨fun _ => rfl, rfl⟩⟩

/-- Nothing is pending when everything has been sent. -/
theorem Accounted.pendingResults_of_finished {handle : ReadyHandle}
    (accounted : handle.Accounted) (finished : .finished ∈ handle.sent) :
    handle.pendingResults = [] := by
  have atEnd := accounted.ended.finished finished
  have noTasks := accounted.ended.idle (.inr atEnd)
  have aligned := accounted.aligned
  rw [Aligned, atEnd] at aligned
  have built : handle.LastReportBuilt := by
    refine ⟨?_, by simp [atEnd, Reporter.inDrainRound]⟩
    rw [aligned.1]
    exact Nat.le_add_right _ _
  exact accounted.settled (by simp [atEnd]) built noTasks

/-- In a run that keeps the last result, a generator that has sent its final update
has reported every result. -/
theorem finished_reportsEveryResult {handle : ReadyHandle}
    (reachable : machine.ReachableBy KeepsLastResult handle)
    (finished : .finished ∈ handle.sent) : handle.ReportsEveryResult := by
  have accounted := accounted_of_reachableBy reachable
  have atEnd := accounted.ended.finished finished
  have noTasks := accounted.ended.idle (.inr atEnd)
  have nonePending := accounted.pendingResults_of_finished finished
  have sent := accounted.ended.sent
  rw [atEnd] at sent
  have tasks := accounted.conserved.tasks
  have flow := accounted.delivered.flow
  rw [noTasks, List.nil_append] at tasks
  rw [nonePending, List.append_nil, reports_of_unsent (by rw [atEnd]; rfl)] at flow
  exact ⟨tasks, ⟨_, sent, by rw [flow]⟩, nonePending⟩

instance (handle : ReadyHandle) (event : Event) : Decidable (handle.KeepsLastResult event) :=
  match event with
  | .complete .. => inferInstanceAs (Decidable (¬ ((_ ∧ ¬ _) ∧ _)))
  | .sendFails => inferInstanceAs (Decidable False)
  | .tick _ | .pace _ | .report => inferInstanceAs (Decidable True)

section OneTransaction

/-- One transaction within one second, without warmup. -/
private def oneTransaction : ReadyHandle :=
  new ⟨0⟩ ⟨[⟨.fromSecs 1, 1⟩]⟩ ⟨0, 0, 0⟩ 0

/-- Up to the end of the sleep until the only step's deadline; the transaction is
dispatched half a second into the step. -/
private def untilDeadline : List Event :=
  [.report, .pace [], .pace [], .report, .report, .report,
    .pace [500000000], .tick 500000000, .pace [], .pace [], .pace [500000000], .pace [],
    .pace [], .report, .tick 500000000]

private def drops : Event := .complete 0 (.dropped none .late) 1000000000

/-- The transaction ends before the snapshot of its step. -/
theorem finished_reportsEveryResult_oneTransaction :
    ∃ handle, machine.ReachableBy KeepsLastResult handle ∧ .finished ∈ handle.sent ∧
      handle.ReportsEveryResult := by
  obtain ⟨handle, reachable, finished⟩ := machine.exists_reachableBy_of_exec
    (fun handle event => of_decide_eq_true (p := handle.KeepsLastResult event))
    ⟨_, _, _, _, rfl⟩
    (untilDeadline ++ [drops, .report, .report, .report, .report, .report])
    (fun handle => decide (.finished ∈ handle.sent))
    (by decide +kernel : (machine.exec _ oneTransaction _).any _ = true)
  have sent := of_decide_eq_true finished
  exact ⟨handle, reachable, sent, finished_reportsEveryResult reachable sent⟩

/-- The transaction ends while the report of the last step is being sent: the drain
check finds nothing in flight, and the result stays behind. -/
theorem lastResult_lost_while_sending :
    ¬ ∀ handle, machine.Reachable handle → .finished ∈ handle.sent →
      handle.ReportsEveryResult := by
  intro always
  obtain ⟨handle, reachable, lost⟩ := machine.exists_reachable_of_exec
    (⟨_, _, _, _, rfl⟩ : machine.initial oneTransaction)
    (untilDeadline ++ [.report, drops, .report, .report, .report, .report])
    (fun handle => decide (.finished ∈ handle.sent ∧ handle.pendingResults ≠ []))
    (by decide +kernel)
  obtain ⟨sent, pending⟩ := of_decide_eq_true lost
  exact pending (always handle reachable sent).2.2

end OneTransaction

end ReadyHandle

end CreoBench
