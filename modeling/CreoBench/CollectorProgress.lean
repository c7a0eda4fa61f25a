import CreoBench.PersistedOnce

/-!
# Collecting goes on

Every step of collector and writer but the merging of a report spends a budget that each
merged report raises by a constant, so that they never go round in circles.  When neither of
them can move, `run` has returned, or everything that was merged is on disk and the collector
waits for the generators.
-/

namespace CreoBench

namespace CollectAndPersist

variable {texts : Texts} {warmupDuration warmupPause : UInt32}

/-! ## The budget -/

/-- The steps that the writer task has before it in its loops. -/
def remainingCalls : WriterLoop.Position → Nat
  | .receiving => 5
  | .persisting _ _ remaining => remaining.length + 10
  | .flushing remaining => remaining.length + 6
  | .closing remaining => remaining.length + 1
  | .signalled => 1
  | .ended => 0

/-- The steps that the collector has before it, if no report comes. -/
def Collector.remaining : Collector → Nat
  | .selecting => 3
  | .sending _ => 13
  | .joining _ => 2
  | .writingMetadata => 1
  | .returned _ | .panicked => 0

def budget (run : CollectAndPersist) : Nat :=
  run.collector.remaining + 9 * run.reports.length + remainingCalls run.writer.position

theorem remainingCalls_call {writer next : WriterLoop}
    (called : writer.call texts = some next) :
    remainingCalls next.position < remainingCalls writer.position := by
  revert called
  fun_cases WriterLoop.call texts writer <;> intro called <;> cases called <;>
    rename_i positionEq <;> rw [positionEq] <;>
      simp [WriterLoop.goto, remainingCalls, WriterLoop.persisters]

theorem remainingCalls_callFails {writer next : WriterLoop} {source : String}
    {left : BufWriter} {error : PersistError}
    (failed : writer.callFails source left = some (next, error)) :
    remainingCalls next.position < remainingCalls writer.position := by
  rcases WriterLoop.callFails_eq_some failed with ⟨signalled, calling⟩
  rw [signalled]
  cases positionEq : writer.position with
  | persisting report phase remaining | flushing remaining =>
      simp only [remainingCalls]
      omega
  | closing remaining =>
      rw [positionEq] at calling
      cases remaining with
      | nil => cases calling
      | cons persister remaining => simp [remainingCalls]
  | receiving | signalled | ended =>
      rw [positionEq] at calling
      cases calling

theorem budget_expectError (run : CollectAndPersist) :
    run.expectError.budget ≤ 2 + 9 * run.reports.length + remainingCalls run.writer.position ∧
      run.expectError.merged = run.merged := by
  unfold expectError budget
  split <;> refine ⟨?_, rfl⟩ <;> simp [Collector.remaining, goto]

/-- Only a merged report raises the budget. -/
theorem budget_step {run next : CollectAndPersist} {event : Event}
    (stepped : run.step texts event = some next) :
    next.budget + 1 + 11 * run.merged.length ≤ run.budget + 11 * next.merged.length := by
  revert stepped
  fun_cases CollectAndPersist.step texts run event <;> intro stepped
  case case9 report sending =>
    have expected := run.budget_expectError
    unfold CollectAndPersist.send at stepped
    split_ifs at stepped <;> cases stepped
    · rw [expected.2]
      simp only [budget, sending, Collector.remaining] at expected ⊢
      omega
    · simp only [budget, sending, Collector.remaining, List.length_append,
        List.length_singleton]
      omega
  case case20 =>
    rcases Option.bind_eq_some_iff.mp stepped with ⟨writer, called, made⟩
    obtain rfl := Option.some.inj made
    have less := remainingCalls_call called
    simp only [budget]
    omega
  case case21 source left =>
    rcases Option.bind_eq_some_iff.mp stepped with ⟨⟨writer, error⟩, failed, made⟩
    obtain rfl := Option.some.inj made
    have less := remainingCalls_callFails failed
    simp only [budget]
    omega
  all_goals cases stepped
  case case1 report selecting =>
    simp only [budget, selecting, Collector.remaining, List.length_append,
      List.length_singleton]
    omega
  case case3 selecting =>
    simp only [budget, selecting, Collector.remaining, goto]
    omega
  case case5 collectError selecting =>
    simp only [budget, selecting, Collector.remaining, goto]
    omega
  case case7 enabled =>
    have expected := run.budget_expectError
    rw [expected.2]
    simp only [budget, enabled.1, Collector.remaining] at expected ⊢
    omega
  case case11 outcome joining ended =>
    have returns : (run.join outcome).collector.remaining ≤ 1 ∧
        (run.join outcome).reports = run.reports ∧ (run.join outcome).writer = run.writer ∧
          (run.join outcome).merged = run.merged := by
      unfold CollectAndPersist.join
      split <;> exact ⟨by simp [goto, Collector.remaining], rfl, rfl, rfl⟩
    have joiningLeft : (Collector.joining outcome).remaining = 2 := rfl
    simp only [budget, returns.2.1, returns.2.2.1, returns.2.2.2, joining, joiningLeft]
    omega
  case case14 succeeds writing =>
    simp only [budget, writing, Collector.remaining, goto]
    omega
  case case16 report reports nonempty receiving =>
    simp only [budget, nonempty, receiving, remainingCalls, WriterLoop.receive,
      WriterLoop.persisters, List.length_cons, List.length_nil]
    omega
  case case18 enabled =>
    simp only [budget, enabled.1, remainingCalls, WriterLoop.goto, WriterLoop.persisters,
      List.length_cons, List.length_nil]
    omega

theorem budget_exec {run final : CollectAndPersist} {events : List Event}
    (ran : (machine texts warmupDuration warmupPause).exec (fun _ _ => true) run events =
      some final) :
    events.length + final.budget + 11 * run.merged.length ≤
      run.budget + 11 * final.merged.length := by
  induction events generalizing run with
  | nil =>
      obtain rfl : run = final := Option.some.inj ran
      simp
  | cons event events ih =>
      rcases Option.bind_eq_some_iff.mp ran with ⟨next, stepped, rest⟩
      have first := budget_step stepped
      have later := ih rest
      rw [List.length_cons]
      omega

/-! ## Waiting for the generators -/

/-- Each round of reports is flushed before the writer task waits for the next one. -/
def Flushed (writer : WriterLoop) : Prop :=
  match writer.position with
  | .receiving => writer.classifier.count = 0 ∨ writer.FlushedBut []
  | .flushing remaining => writer.FlushedBut remaining
  | _ => True

theorem Flushed.call {writer next : WriterLoop} (flushed : Flushed writer)
    (called : writer.call texts = some next) : Flushed next := by
  unfold Flushed at flushed
  revert called
  fun_cases WriterLoop.call texts writer <;> intro called <;> cases called <;>
    rename_i positionEq <;> rw [positionEq] at flushed
  case case2 report phase =>
    refine ⟨fun done => ?_, fun done => ?_⟩ <;> exact absurd (by decide) done
  case case3 persister remaining => exact flushed.flush _
  case case4 => exact .inr ⟨flushed.interval, flushed.transactions⟩
  all_goals trivial

theorem flushed_step {run next : CollectAndPersist} {event : Event}
    (flushed : Flushed run.writer) (stepped : run.step texts event = some next) :
    Flushed next.writer := by
  have expected : run.expectError.writer = run.writer := by
    unfold expectError
    split <;> rfl
  revert stepped
  fun_cases CollectAndPersist.step texts run event <;> intro stepped
  case case9 report sending =>
    unfold CollectAndPersist.send at stepped
    split_ifs at stepped <;> cases stepped
    · rw [expected]
      exact flushed
    · exact flushed
  case case20 =>
    rcases Option.bind_eq_some_iff.mp stepped with ⟨writer, called, made⟩
    obtain rfl := Option.some.inj made
    exact flushed.call called
  case case21 source left =>
    rcases Option.bind_eq_some_iff.mp stepped with ⟨⟨writer, error⟩, failed, made⟩
    obtain rfl := Option.some.inj made
    unfold Flushed
    rw [(WriterLoop.callFails_eq_some failed).1]
    trivial
  all_goals cases stepped
  case case7 =>
    rw [expected]
    exact flushed
  case case11 outcome joining ended =>
    unfold CollectAndPersist.join
    split <;> exact flushed
  case case16 | case18 => trivial
  all_goals exact flushed

theorem flushed_of_reachable {run : CollectAndPersist}
    (reachable : (machine texts warmupDuration warmupPause).Reachable run) :
    Flushed run.writer := by
  apply reachable.invariant
  · rintro _ rfl
    exact .inl rfl
  · intro run event next flushed _ stepped
    exact flushed_step flushed stepped

/-- What collector and writer do of their own accord, and without a failure. -/
def Event.isOwn : Event → Bool
  | .signalled | .send | .join | .writeMetadata _ | .receive | .close | .call => true
  | .merged _ | .exhausted | .collectFailed _ | .callFails .. => false

/-- The collector waits for the next report, and all others are on disk. -/
structure Waits (texts : Texts) (warmupDuration warmupPause : UInt32)
    (run : CollectAndPersist) : Prop where
  collector : run.collector = .selecting
  writer : run.writer.position = .receiving
  reports : run.reports = []
  interval : run.merged ≠ [] → run.writer.interval.file =
    IntervalCsvPersister.expected texts warmupDuration warmupPause run.merged
  transactions : run.merged ≠ [] → run.writer.transactions.file =
    TransactionCsvPersister.expected texts run.merged

theorem Healthy.waits {run : CollectAndPersist}
    (healthy : run.Healthy texts warmupDuration warmupPause) (flushed : Flushed run.writer)
    (selecting : run.collector = .selecting) (receiving : run.writer.position = .receiving)
    (noReports : run.reports = []) : run.Waits texts warmupDuration warmupPause := by
  rcases healthy.taken with ⟨taken, mergedEq, counted, wrote⟩
  obtain rfl : run.merged = taken := by
    rw [mergedEq, noReports, selecting]
    simp [Collector.inHand]
  unfold WriterLoop.Wrote at wrote
  unfold Flushed at flushed
  rw [receiving] at wrote flushed
  have onDisk : run.merged ≠ [] → run.writer.FlushedBut [] := by
    intro nonempty
    refine flushed.resolve_left fun zero => nonempty ?_
    rw [counted] at zero
    exact List.length_eq_zero_iff.mp zero
  refine ⟨selecting, receiving, noReports, fun nonempty => ?_, fun nonempty => ?_⟩
  · rw [BufWriter.file_eq_text ((onDisk nonempty).interval List.not_mem_nil), wrote.interval]
  · rw [BufWriter.file_eq_text ((onDisk nonempty).transactions List.not_mem_nil),
      wrote.transactions]

/-- The writer task waits for reports or has ended, if it cannot move. -/
theorem position_of_stuck {run : CollectAndPersist}
    (stuck : ∀ event, event.isOwn → run.step texts event = none) :
    run.writer.position = .receiving ∧ run.reports = [] ∨ run.writer.position = .ended := by
  have called := stuck .call rfl
  have received := stuck .receive rfl
  cases positionEq : run.writer.position with
  | ended => exact .inr rfl
  | receiving =>
      refine .inl ⟨rfl, ?_⟩
      cases reportsEq : run.reports with
      | nil => rfl
      | cons report reports => simp [step, positionEq, reportsEq] at received
  | persisting report phase remaining =>
      cases remaining <;> simp [step, WriterLoop.call, positionEq] at called
  | flushing remaining => cases remaining <;> simp [step, WriterLoop.call, positionEq] at called
  | closing remaining => cases remaining <;> simp [step, WriterLoop.call, positionEq] at called
  | signalled => simp [step, WriterLoop.call, positionEq] at called

theorem Failed.returned_of_stuck {run : CollectAndPersist} {error : PersistError}
    (failed : run.Failed error) (stuck : ∀ event, event.isOwn → run.step texts event = none) :
    run.writer.position = .ended ∧ ∃ result, run.collector = .returned result := by
  have known := failed.collector
  have ended : run.writer.position = .ended := by
    rcases position_of_stuck stuck with ⟨receiving, -⟩ | ended
    · rcases failed.writer with position | position <;> rw [receiving] at position <;>
        cases position
    · exact ended
  refine ⟨ended, ?_⟩
  cases collectorEq : run.collector <;> rw [collectorEq] at known
  case selecting =>
    have signalled := stuck .signalled rfl
    simp [CollectAndPersist.step, collectorEq, errorReady, ended] at signalled
  case sending report =>
    have sent := stuck .send rfl
    simp [CollectAndPersist.step, collectorEq, CollectAndPersist.send, ended] at sent
  case joining outcome =>
    have joined := stuck .join rfl
    simp [CollectAndPersist.step, collectorEq, ended] at joined
  case returned result => exact ⟨result, rfl⟩
  all_goals cases known

theorem Healthy.waits_or_returned {run : CollectAndPersist}
    (healthy : run.Healthy texts warmupDuration warmupPause) (flushed : Flushed run.writer)
    (stuck : ∀ event, event.isOwn → run.step texts event = none) :
    run.Waits texts warmupDuration warmupPause ∨
      run.writer.position = .ended ∧ ∃ result, run.collector = .returned result := by
  have isHealthy := healthy.collector
  rcases position_of_stuck stuck with ⟨receiving, noReports⟩ | ended
  · left
    cases collectorEq : run.collector with
    | selecting => exact healthy.waits flushed collectorEq receiving noReports
    | sending report =>
        have sent := stuck .send rfl
        simp [CollectAndPersist.step, collectorEq, CollectAndPersist.send, receiving,
          noReports] at sent
    | joining outcome =>
        have closed := stuck .close rfl
        simp [CollectAndPersist.step, collectorEq, receiving, noReports,
          Collector.holdsSender] at closed
    | writingMetadata =>
        have wrote := stuck (.writeMetadata true) rfl
        simp [CollectAndPersist.step, collectorEq] at wrote
    | returned result =>
        rw [collectorEq, receiving] at isHealthy
        rcases result with (_ | _ | _) | _ <;> cases isHealthy
    | panicked =>
        rw [collectorEq] at isHealthy
        exact isHealthy.elim
  · right
    refine ⟨ended, ?_⟩
    cases collectorEq : run.collector with
    | selecting | sending _ =>
        rw [collectorEq] at isHealthy
        exact absurd ended isHealthy.1
    | joining outcome =>
        have joined := stuck .join rfl
        simp [CollectAndPersist.step, collectorEq, ended] at joined
    | writingMetadata =>
        have wrote := stuck (.writeMetadata true) rfl
        simp [CollectAndPersist.step, collectorEq] at wrote
    | returned result => exact ⟨result, rfl⟩
    | panicked =>
        rw [collectorEq] at isHealthy
        exact isHealthy.elim

/-- Collector and writer take a bounded number of steps for each report, and stop only when
`run` has returned or everything is on disk and the next report has not come. -/
theorem goes_on_until_returned {events : List Event} {run : CollectAndPersist}
    (ran : (machine texts warmupDuration warmupPause).exec (fun _ _ => true)
      (new warmupDuration warmupPause) events = some run) :
    events.length ≤ 11 * run.merged.length + 8 ∧
      ((∀ event, event.isOwn → run.step texts event = none) →
        run.Waits texts warmupDuration warmupPause ∨
          run.writer.position = .ended ∧ ∃ result, run.collector = .returned result) := by
  have reachable : (machine texts warmupDuration warmupPause).Reachable run :=
    Machine.reachableBy_of_exec (fun _ _ _ => trivial) events (.start rfl) ran
  constructor
  · have bounded := budget_exec ran
    have fresh : (new warmupDuration warmupPause).budget = 8 := rfl
    have noneMerged : (new warmupDuration warmupPause).merged.length = 0 := rfl
    omega
  · intro stuck
    rcases (sound_of_reachable reachable).state with healthy | ⟨error, failed⟩
    · exact healthy.waits_or_returned (flushed_of_reachable reachable) stuck
    · exact .inr (failed.returned_of_stuck stuck)

/-- One report is on disk, and the next one has not come. -/
theorem goes_on_until_returned_oneReport :
    ∃ (texts : Texts) (run : CollectAndPersist), run.merged.length = 1 ∧
      run.collector = .selecting ∧ ((∀ event, event.isOwn → run.step texts event = none) →
        run.Waits texts 1 0 ∨
          run.writer.position = .ended ∧ ∃ result, run.collector = .returned result) := by
  let texts : Texts := ⟨fun number => toString number.bits.toNat, id⟩
  let events : List Event :=
    [.merged ⟨⟨.fromSecs 1⟩, 1, .default, none⟩, .send, .receive] ++ List.replicate 8 .call
  have executed : ((machine texts 1 0).exec (fun _ _ => true) (new 1 0) events).any
      (fun run => decide (run.merged.length = 1 ∧ run.collector = .selecting)) := by
    decide
  rcases (Option.any_eq_true _ _).mp executed with ⟨run, ran, checked⟩
  rcases of_decide_eq_true checked with ⟨one, selecting⟩
  exact ⟨texts, run, one, selecting, (goes_on_until_returned ran).2⟩

end CollectAndPersist

end CreoBench
