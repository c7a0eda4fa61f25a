import CreoBench.WriterLoop

/-!
# Every merged report is persisted once

Until a persister fails, the reports that were merged are those that the writer
task has taken, those in the channel and the one that is being sent, in this
order, and the files hold the rows of the reports that were taken.  Once one has
failed, its error stays in the channel until somebody takes it.
-/

namespace CreoBench

namespace WriterLoop

variable (texts : Texts) (warmupDuration warmupPause : UInt32)

/-- The rows of these reports were written. -/
structure HasRows (reports : List IntervalReport) (writer : WriterLoop) : Prop where
  interval : writer.interval.text =
    IntervalCsvPersister.expected texts warmupDuration warmupPause reports
  transactions : writer.transactions.text = TransactionCsvPersister.expected texts reports

/-- The rows of one more report were written by all but the remaining persisters. -/
structure HasRowsBut (remaining : List Persister) (before : List IntervalReport)
    (report : IntervalReport) (writer : WriterLoop) : Prop where
  intervalBefore : .interval ∈ remaining → writer.interval.text =
    IntervalCsvPersister.expected texts warmupDuration warmupPause before
  intervalAfter : .interval ∉ remaining → writer.interval.text =
    IntervalCsvPersister.expected texts warmupDuration warmupPause (before ++ [report])
  transactionsBefore : .transactions ∈ remaining → writer.transactions.text =
    TransactionCsvPersister.expected texts before
  transactionsAfter : .transactions ∉ remaining → writer.transactions.text =
    TransactionCsvPersister.expected texts (before ++ [report])

/-- Whoever does not remain has been flushed. -/
structure FlushedBut (remaining : List Persister) (writer : WriterLoop) : Prop where
  interval : .interval ∉ remaining → writer.interval.buffer = ""
  transactions : .transactions ∉ remaining → writer.transactions.buffer = ""

/-- What the files hold when these reports were taken out of the channel. -/
def Wrote (taken : List IntervalReport) (writer : WriterLoop) : Prop :=
  match writer.position with
  | .receiving | .flushing _ => writer.HasRows texts warmupDuration warmupPause taken
  | .persisting report phase remaining =>
      remaining.Nodup ∧ ∃ before, taken = before ++ [report] ∧
        phase = phaseOf warmupDuration warmupPause before.length ∧
          writer.HasRowsBut texts warmupDuration warmupPause remaining before report
  | .closing remaining =>
      writer.HasRows texts warmupDuration warmupPause taken ∧ writer.FlushedBut remaining
  | .ended =>
      writer.HasRows texts warmupDuration warmupPause taken ∧ writer.FlushedBut []
  | .signalled => False

variable {texts : Texts} {warmupDuration warmupPause : UInt32}

theorem HasRows.flush {reports : List IntervalReport} {writer : WriterLoop}
    (rows : writer.HasRows texts warmupDuration warmupPause reports) (persister : Persister)
    (position : Position) :
    ((writer.flush persister).goto position).HasRows texts warmupDuration warmupPause
      reports := by
  cases persister with
  | console => exact ⟨rows.interval, rows.transactions⟩
  | interval => exact ⟨(BufWriter.text_flush _).trans rows.interval, rows.transactions⟩
  | transactions => exact ⟨rows.interval, (BufWriter.text_flush _).trans rows.transactions⟩

/-- One persister less has not written the report. -/
theorem HasRowsBut.persist {before : List IntervalReport} {report : IntervalReport}
    {phase : Phase} {persister : Persister} {remaining : List Persister} {writer : WriterLoop}
    (rows : writer.HasRowsBut texts warmupDuration warmupPause (persister :: remaining) before
      report)
    (phaseEq : phase = phaseOf warmupDuration warmupPause before.length)
    (absent : persister ∉ remaining) (position : Position) :
    ((writer.persist texts report phase persister).goto position).HasRowsBut texts
      warmupDuration warmupPause remaining before report := by
  rcases rows with ⟨intervalBefore, intervalAfter, transactionsBefore, transactionsAfter⟩
  simp only [List.mem_cons, not_or] at *
  cases persister with
  | console =>
      refine ⟨fun member => ?_, fun done => ?_, fun member => ?_, fun done => ?_⟩
      · exact intervalBefore (.inr member)
      · exact intervalAfter ⟨nofun, done⟩
      · exact transactionsBefore (.inr member)
      · exact transactionsAfter ⟨nofun, done⟩
  | interval =>
      refine ⟨fun member => ?_, fun _ => ?_, fun member => ?_, fun done => ?_⟩
      · exact absurd member absent
      · exact IntervalCsvPersister.text_persist (intervalBefore (.inl rfl)) phaseEq
      · exact transactionsBefore (.inr member)
      · exact transactionsAfter ⟨nofun, done⟩
  | transactions =>
      refine ⟨fun member => ?_, fun done => ?_, fun member => ?_, fun _ => ?_⟩
      · exact intervalBefore (.inr member)
      · exact intervalAfter ⟨nofun, done⟩
      · exact absurd member absent
      · exact TransactionCsvPersister.text_persist (transactionsBefore (.inl rfl))

/-- One persister less has not been flushed. -/
theorem FlushedBut.flush {persister : Persister} {remaining : List Persister}
    {writer : WriterLoop} (flushed : writer.FlushedBut (persister :: remaining))
    (position : Position) :
    ((writer.flush persister).goto position).FlushedBut remaining := by
  rcases flushed with ⟨interval, transactions⟩
  simp only [List.mem_cons, not_or] at *
  cases persister with
  | console => exact ⟨fun done => interval ⟨nofun, done⟩, fun done => transactions ⟨nofun, done⟩⟩
  | interval => exact ⟨fun _ => rfl, fun done => transactions ⟨nofun, done⟩⟩
  | transactions => exact ⟨fun done => interval ⟨nofun, done⟩, fun _ => rfl⟩

/-- A call that succeeds. -/
theorem Wrote.call {taken : List IntervalReport} {writer next : WriterLoop}
    (wrote : writer.Wrote texts warmupDuration warmupPause taken)
    (called : writer.call texts = some next) :
    next.Wrote texts warmupDuration warmupPause taken := by
  unfold Wrote at wrote
  revert called
  fun_cases WriterLoop.call texts writer <;> intro called <;> cases called <;>
    rename_i positionEq <;> rw [positionEq] at wrote
  case case1 report phase persister remaining =>
    rcases wrote with ⟨nodup, before, rfl, phaseEq, rows⟩
    rcases List.nodup_cons.mp nodup with ⟨absent, rest⟩
    exact ⟨rest, before, rfl, phaseEq, rows.persist phaseEq absent _⟩
  case case2 report phase =>
    rcases wrote with ⟨-, before, rfl, -, rows⟩
    exact ⟨rows.intervalAfter List.not_mem_nil, rows.transactionsAfter List.not_mem_nil⟩
  case case3 persister remaining => exact wrote.flush persister _
  case case4 => exact ⟨wrote.interval, wrote.transactions⟩
  case case5 persister remaining =>
    exact ⟨wrote.1.flush persister _, wrote.2.flush _⟩
  case case6 =>
    exact ⟨⟨wrote.1.interval, wrote.1.transactions⟩, wrote.2.interval, wrote.2.transactions⟩
  case case7 => cases wrote

theorem classifier_of_call {writer next : WriterLoop} (called : writer.call texts = some next) :
    next.classifier = writer.classifier := by
  have persist : ∀ report phase persister,
      (writer.persist texts report phase persister).classifier = writer.classifier := by
    intro report phase persister
    cases persister <;> rfl
  have flush : ∀ persister, (writer.flush persister).classifier = writer.classifier := by
    intro persister
    cases persister <;> rfl
  revert called
  fun_cases WriterLoop.call texts writer <;> intro called <;> cases called
  case case1 report phase persister remaining _ => exact persist report phase persister
  case case3 persister remaining _ | case5 persister remaining _ => exact flush persister
  all_goals rfl

/-- How the loops follow each other. -/
theorem position_of_call {writer next : WriterLoop} (called : writer.call texts = some next) :
    writer.position ≠ .receiving ∧ writer.position ≠ .ended ∧
      (next.position = .ended → writer.position = .closing [] ∨ writer.position = .signalled) ∧
        ∀ remaining, next.position = .closing remaining →
          ∃ persister, writer.position = .closing (persister :: remaining) := by
  revert called
  fun_cases WriterLoop.call texts writer <;> intro called <;> cases called <;>
    rename_i positionEq <;> rw [positionEq] <;> simp [goto]

theorem callFails_eq_some {writer next : WriterLoop} {source : String} {left : BufWriter}
    {error : PersistError} (failed : writer.callFails source left = some (next, error)) :
    next.position = .signalled ∧ writer.position.persister.isSome := by
  unfold callFails at failed
  split at failed <;> cases failed <;> rename_i persisterEq <;> exact ⟨rfl, by rw [persisterEq]; rfl⟩

/-- A report that is taken out of the channel. -/
theorem Wrote.receive {taken : List IntervalReport} {writer : WriterLoop}
    (wrote : writer.Wrote texts warmupDuration warmupPause taken)
    (receiving : writer.position = .receiving)
    (counted : writer.classifier =
      { PhaseClassifier.new warmupDuration warmupPause with count := taken.length })
    (report : IntervalReport) :
    (writer.receive report).Wrote texts warmupDuration warmupPause (taken ++ [report]) := by
  unfold Wrote at wrote
  rw [receiving] at wrote
  refine ⟨by decide, taken, rfl, ?_, ?_⟩
  · rw [PhaseClassifier.classify, counted]
    rfl
  · refine ⟨fun _ => wrote.interval, fun absent => ?_, fun _ => wrote.transactions,
      fun absent => ?_⟩ <;> exact absurd (by decide) absent

end WriterLoop

namespace CollectAndPersist

variable {texts : Texts} {warmupDuration warmupPause : UInt32}

/-- The report that has been merged and is not in the channel yet. -/
def Collector.inHand : Collector → List IntervalReport
  | .sending report => [report]
  | _ => []

/-- Where `run` can stand while no persister has failed. -/
def Collector.IsHealthy (position : WriterLoop.Position) : Collector → Prop
  | .selecting | .sending _ => position ≠ .ended ∧ ∀ remaining, position ≠ .closing remaining
  | .joining (.persistFailed _) | .panicked | .returned (.error (.persist _)) => False
  | .joining _ => True
  | .writingMetadata | .returned _ => position = .ended

/-- Where `run` can stand once a persister has failed with `error`, and what is left in the
error channel. -/
def Collector.KnowsOf (error : PersistError) (left : Option PersistError)
    (position : WriterLoop.Position) : Collector → Prop
  | .selecting | .sending _ | .joining .exhausted | .joining (.collectFailed _) =>
      left = some error
  | .joining (.persistFailed known) => known = error
  | .returned (.error (.persist known)) => known = error
  | .returned (.error (.collect _)) => position = .ended
  | .writingMetadata | .returned _ | .panicked => False

variable (texts warmupDuration warmupPause) in
/-- No persister has failed, and no report is lost. -/
structure Healthy (run : CollectAndPersist) : Prop where
  failed : run.failed = none
  error : run.error = none
  collector : run.collector.IsHealthy run.writer.position
  taken : ∃ taken, run.merged = taken ++ run.reports ++ run.collector.inHand ∧
    run.writer.classifier =
      { PhaseClassifier.new warmupDuration warmupPause with count := taken.length } ∧
      run.writer.Wrote texts warmupDuration warmupPause taken
  /-- The loop over the channel ends when it is closed and empty. -/
  drained : run.writer.position = .ended ∨ (∃ remaining, run.writer.position = .closing remaining) →
    run.reports = []

/-- A persister has failed, and its error is known or will be. -/
structure Failed (error : PersistError) (run : CollectAndPersist) : Prop where
  failed : run.failed = some error
  writer : run.writer.position = .signalled ∨ run.writer.position = .ended
  collector : run.collector.KnowsOf error run.error run.writer.position

variable (texts warmupDuration warmupPause) in
/-- The invariant of all runs. -/
structure Sound (run : CollectAndPersist) : Prop where
  summary : run.summary = .recordAll warmupDuration warmupPause run.merged
  state : run.Healthy texts warmupDuration warmupPause ∨ ∃ error, run.Failed error

theorem sound_new : (new warmupDuration warmupPause).Sound texts warmupDuration warmupPause := by
  refine ⟨rfl, .inl ⟨rfl, rfl, ?_, ⟨[], rfl, rfl, ?_⟩, ?_⟩⟩
  · exact ⟨nofun, fun _ => nofun⟩
  · exact ⟨IntervalCsvPersister.text_new texts _ _, TransactionCsvPersister.text_new texts⟩
  · rintro (ended | ⟨remaining, closing⟩)
    · cases ended
    · cases closing

/-- The writer moves on before it has ended. -/
theorem Collector.IsHealthy.moves {collector : Collector} {position next : WriterLoop.Position}
    (healthy : collector.IsHealthy position) (running : position ≠ .ended)
    (isOpen : collector.holdsSender → next ≠ .ended ∧ ∀ remaining, next ≠ .closing remaining) :
    collector.IsHealthy next := by
  revert healthy
  fun_cases Collector.IsHealthy position collector <;> intro healthy
  case case1 | case2 => exact isOpen rfl
  case case3 | case4 | case5 => exact healthy
  case case6 outcome notPersist =>
    cases outcome with
    | exhausted | collectFailed error => trivial
    | persistFailed error => exact (notPersist error rfl).elim
  all_goals exact absurd healthy running

/-- The collector moves on with no report in its hand. -/
theorem Healthy.goto {run : CollectAndPersist} {collector : Collector}
    (healthy : run.Healthy texts warmupDuration warmupPause)
    (inHand : collector.inHand = run.collector.inHand)
    (isHealthy : collector.IsHealthy run.writer.position) :
    (run.goto collector).Healthy texts warmupDuration warmupPause := by
  rcases healthy.taken with ⟨taken, mergedEq, written⟩
  refine ⟨healthy.failed, healthy.error, isHealthy, ⟨taken, ?_, written⟩, healthy.drained⟩
  change run.merged = taken ++ run.reports ++ collector.inHand
  rw [inHand]
  exact mergedEq

theorem Healthy.join {run : CollectAndPersist} {outcome : CollectOutcome}
    (healthy : run.Healthy texts warmupDuration warmupPause)
    (joining : run.collector = .joining outcome) (ended : run.writer.position = .ended) :
    (run.join outcome).Healthy texts warmupDuration warmupPause := by
  have isHealthy := healthy.collector
  rw [joining] at isHealthy
  have inHand : run.collector.inHand = [] := by rw [joining]; rfl
  cases outcome with
  | exhausted =>
      simp only [CollectAndPersist.join, healthy.error]
      exact healthy.goto inHand.symm ended
  | collectFailed error => exact healthy.goto inHand.symm ended
  | persistFailed error => cases isHealthy

/-- While the collector holds the sender, the writer has not left its loop. -/
theorem Healthy.isOpen {run : CollectAndPersist}
    (healthy : run.Healthy texts warmupDuration warmupPause)
    (holds : run.collector.holdsSender) :
    run.writer.position ≠ .ended ∧ ∀ remaining, run.writer.position ≠ .closing remaining := by
  have isHealthy := healthy.collector
  cases collectorEq : run.collector <;> rw [collectorEq] at holds isHealthy
  case selecting | sending => exact isHealthy
  all_goals cases holds

theorem Healthy.not_signalled {run : CollectAndPersist}
    (healthy : run.Healthy texts warmupDuration warmupPause) :
    run.writer.position ≠ .signalled := by
  intro signalled
  rcases healthy.taken with ⟨taken, -, -, wrote⟩
  unfold WriterLoop.Wrote at wrote
  rw [signalled] at wrote
  exact wrote

/-- Nobody waits for an error that will not come. -/
theorem Healthy.not_errorReady {run : CollectAndPersist}
    (healthy : run.Healthy texts warmupDuration warmupPause)
    (holds : run.collector.holdsSender) : run.errorReady = false := by
  simp [errorReady, healthy.error, healthy.not_signalled, (healthy.isOpen holds).1]

theorem Healthy.merged {run : CollectAndPersist}
    (healthy : run.Healthy texts warmupDuration warmupPause)
    (selecting : run.collector = .selecting) (report : IntervalReport) :
    { run with
      collector := .sending report
      summary := run.summary.record report
      merged := run.merged ++ [report] }.Healthy texts warmupDuration warmupPause := by
  have isOpen := healthy.isOpen (by rw [selecting]; rfl)
  rcases healthy.taken with ⟨taken, mergedEq, written⟩
  refine ⟨healthy.failed, healthy.error, isOpen, ⟨taken, ?_, written⟩, healthy.drained⟩
  change run.merged ++ [report] = taken ++ run.reports ++ [report]
  rw [mergedEq, selecting]
  simp [Collector.inHand]

theorem Healthy.send {run next : CollectAndPersist} {report : IntervalReport}
    (healthy : run.Healthy texts warmupDuration warmupPause)
    (sending : run.collector = .sending report) (sent : run.send report = some next) :
    next.Healthy texts warmupDuration warmupPause := by
  have isOpen := healthy.isOpen (by rw [sending]; rfl)
  rcases healthy.taken with ⟨taken, mergedEq, written⟩
  unfold CollectAndPersist.send at sent
  rw [if_neg isOpen.1] at sent
  split_ifs at sent
  cases sent
  refine ⟨healthy.failed, healthy.error, isOpen, ⟨taken, ?_, written⟩, ?_⟩
  · change run.merged = taken ++ (run.reports ++ [report]) ++ []
    rw [mergedEq, sending]
    simp [Collector.inHand]
  · rintro (ended | ⟨remaining, closing⟩)
    · exact absurd ended isOpen.1
    · exact absurd closing (isOpen.2 remaining)

theorem Healthy.receive {run : CollectAndPersist} {report : IntervalReport}
    {reports : List IntervalReport} (healthy : run.Healthy texts warmupDuration warmupPause)
    (receiving : run.writer.position = .receiving) (reportsEq : run.reports = report :: reports) :
    { run with reports, writer := run.writer.receive report }.Healthy texts warmupDuration
      warmupPause := by
  rcases healthy.taken with ⟨taken, mergedEq, counted, wrote⟩
  refine ⟨healthy.failed, healthy.error, ?_, ⟨taken ++ [report], ?_, ?_, ?_⟩, ?_⟩
  · refine healthy.collector.moves ?_ fun _ => ⟨nofun, fun _ => nofun⟩
    rw [receiving]
    exact nofun
  · change run.merged = taken ++ [report] ++ reports ++ run.collector.inHand
    rw [mergedEq, reportsEq]
    simp
  · change run.writer.classifier.classify.2 = _
    rw [PhaseClassifier.classify, counted]
    simp
  · exact wrote.receive receiving counted report
  · rintro (ended | ⟨remaining, closing⟩)
    · cases ended
    · cases closing

theorem Healthy.close {run : CollectAndPersist}
    (healthy : run.Healthy texts warmupDuration warmupPause)
    (receiving : run.writer.position = .receiving) (empty : run.reports = [])
    (closed : run.collector.holdsSender = false) :
    { run with writer := run.writer.goto (.closing WriterLoop.persisters) }.Healthy texts
      warmupDuration warmupPause := by
  rcases healthy.taken with ⟨taken, mergedEq, counted, wrote⟩
  refine ⟨healthy.failed, healthy.error, ?_, ⟨taken, mergedEq, counted, ?_⟩, fun _ => empty⟩
  · refine healthy.collector.moves ?_ fun holds => ?_
    · rw [receiving]
      exact nofun
    · rw [closed] at holds
      cases holds
  · unfold WriterLoop.Wrote at wrote
    rw [receiving] at wrote
    refine ⟨⟨wrote.interval, wrote.transactions⟩, fun absent => ?_, fun absent => ?_⟩ <;>
      exact absurd (by decide) absent

theorem Healthy.call {run : CollectAndPersist} {writer : WriterLoop}
    (healthy : run.Healthy texts warmupDuration warmupPause)
    (called : run.writer.call texts = some writer) :
    { run with writer }.Healthy texts warmupDuration warmupPause := by
  rcases healthy.taken with ⟨taken, mergedEq, counted, wrote⟩
  rcases WriterLoop.position_of_call called with ⟨-, running, ended, closing⟩
  have notSignalled := healthy.not_signalled
  have classifier := WriterLoop.classifier_of_call called
  refine ⟨healthy.failed, healthy.error, ?_, ⟨taken, mergedEq, ?_, wrote.call called⟩, ?_⟩
  · refine healthy.collector.moves running fun holds => ?_
    have isOpen := healthy.isOpen holds
    refine ⟨fun endedNext => ?_, fun remaining closingNext => ?_⟩
    · rcases ended endedNext with last | signalled
      · exact isOpen.2 [] last
      · exact notSignalled signalled
    · rcases closing remaining closingNext with ⟨persister, before⟩
      exact isOpen.2 _ before
  · exact classifier.trans counted
  · rintro (endedNext | ⟨remaining, closingNext⟩)
    · rcases ended endedNext with last | signalled
      · exact healthy.drained (.inr ⟨_, last⟩)
      · exact absurd signalled notSignalled
    · rcases closing remaining closingNext with ⟨persister, before⟩
      exact healthy.drained (.inr ⟨_, before⟩)

/-- The first call of a persister that fails. -/
theorem Healthy.callFails {run : CollectAndPersist} {writer : WriterLoop} {source : String}
    {left : BufWriter} {error : PersistError}
    (healthy : run.Healthy texts warmupDuration warmupPause)
    (failed : run.writer.callFails source left = some (writer, error)) :
    { run with writer, error := some error, failed := some error }.Failed error := by
  rcases WriterLoop.callFails_eq_some failed with ⟨signalled, calling⟩
  refine ⟨rfl, .inl signalled, ?_⟩
  have isHealthy := healthy.collector
  change run.collector.KnowsOf error (some error) writer.position
  revert isHealthy
  fun_cases Collector.IsHealthy run.writer.position run.collector <;> intro isHealthy
  case case1 | case2 => rfl
  case case3 | case4 | case5 => cases isHealthy
  case case6 outcome notPersist =>
    cases outcome with
    | exhausted | collectFailed error => rfl
    | persistFailed error => exact (notPersist error rfl).elim
  all_goals
    rw [isHealthy] at calling
    cases calling

/-- Somebody takes the error out of its channel. -/
theorem Failed.expectError {run : CollectAndPersist} {error : PersistError}
    (failed : run.Failed error) (left : run.error = some error) :
    run.expectError.Failed error := by
  unfold CollectAndPersist.expectError
  rw [left]
  exact ⟨failed.failed, failed.writer, rfl⟩

theorem Failed.join {run : CollectAndPersist} {outcome : CollectOutcome} {error : PersistError}
    (failed : run.Failed error) (joining : run.collector = .joining outcome)
    (ended : run.writer.position = .ended) : (run.join outcome).Failed error := by
  have known := failed.collector
  rw [joining] at known
  cases outcome with
  | exhausted =>
      have left : run.error = some error := known
      simp only [CollectAndPersist.join, left]
      exact ⟨failed.failed, failed.writer, rfl⟩
  | collectFailed collectError => exact ⟨failed.failed, failed.writer, ended⟩
  | persistFailed persistError => exact ⟨failed.failed, failed.writer, known⟩

/-- The writer returns after it has sent the error. -/
theorem Collector.KnowsOf.ended {collector : Collector} {error : PersistError}
    {left : Option PersistError} (known : collector.KnowsOf error left .signalled) :
    collector.KnowsOf error left .ended := by
  unfold Collector.KnowsOf at known ⊢
  split <;> simp_all

/-- A step after a persister has failed. -/
theorem Failed.step {run next : CollectAndPersist} {event : Event} {error : PersistError}
    (failed : run.Failed error) (stepped : run.step texts event = some next) :
    next.Failed error := by
  have known := failed.collector
  have writer := failed.writer
  have receivingNot : run.writer.position ≠ .receiving := by
    rcases writer with position | position <;> rw [position] <;> exact nofun
  revert stepped
  fun_cases CollectAndPersist.step texts run event <;> intro stepped
  case case7 enabled =>
    cases stepped
    rw [enabled.1] at known
    exact failed.expectError known
  case case9 report sending =>
    rw [sending] at known
    unfold CollectAndPersist.send at stepped
    split_ifs at stepped <;> cases stepped
    · exact failed.expectError known
    · exact ⟨failed.failed, writer, known⟩
  case case11 outcome joining ended =>
    cases stepped
    exact failed.join joining ended
  case case14 succeeds writing =>
    rw [writing] at known
    cases known
  case case16 report reports _ receiving => exact absurd receiving receivingNot
  case case18 enabled => exact absurd enabled.1 receivingNot
  case case20 =>
    rcases Option.bind_eq_some_iff.mp stepped with ⟨next, called, made⟩
    obtain rfl := Option.some.inj made
    have signalled := writer.resolve_right (WriterLoop.position_of_call called).2.1
    have ended : next.position = .ended := by
      simp only [WriterLoop.call, signalled] at called
      cases called
      rfl
    refine ⟨failed.failed, .inr ended, ?_⟩
    rw [signalled] at known
    change run.collector.KnowsOf error run.error next.position
    rw [ended]
    exact known.ended
  case case21 source left =>
    rcases Option.bind_eq_some_iff.mp stepped with ⟨⟨next, again⟩, called, made⟩
    have calling := (WriterLoop.callFails_eq_some called).2
    rcases writer with position | position <;> rw [position] at calling <;> cases calling
  all_goals cases stepped
  case case1 report selecting | case3 selecting | case5 collectError selecting =>
    rw [selecting] at known
    exact ⟨failed.failed, writer, known⟩

/-- Only `collect_reports` returning a report changes what was merged and counted. -/
theorem merged_of_step {run next : CollectAndPersist} {event : Event}
    (stepped : run.step texts event = some next) :
    next.merged = run.merged ∧ next.summary = run.summary ∨
      ∃ report, next.merged = run.merged ++ [report] ∧
        next.summary = run.summary.record report := by
  revert stepped
  fun_cases CollectAndPersist.step texts run event <;> intro stepped
  case case9 report _ =>
    unfold CollectAndPersist.send CollectAndPersist.expectError at stepped
    split_ifs at stepped <;> [split at stepped; skip] <;> cases stepped <;> exact .inl ⟨rfl, rfl⟩
  case case20 =>
    rcases Option.bind_eq_some_iff.mp stepped with ⟨writer, -, made⟩
    obtain rfl := Option.some.inj made
    exact .inl ⟨rfl, rfl⟩
  case case21 source left =>
    rcases Option.bind_eq_some_iff.mp stepped with ⟨⟨writer, error⟩, -, made⟩
    obtain rfl := Option.some.inj made
    exact .inl ⟨rfl, rfl⟩
  all_goals cases stepped
  case case1 report _ => exact .inr ⟨report, rfl, rfl⟩
  case case7 =>
    unfold CollectAndPersist.expectError
    split <;> exact .inl ⟨rfl, rfl⟩
  case case11 outcome _ _ =>
    unfold CollectAndPersist.join
    split <;> exact .inl ⟨rfl, rfl⟩
  all_goals exact .inl ⟨rfl, rfl⟩

theorem Healthy.step {run next : CollectAndPersist} {event : Event}
    (healthy : run.Healthy texts warmupDuration warmupPause)
    (stepped : run.step texts event = some next) :
    next.Healthy texts warmupDuration warmupPause ∨ ∃ error, next.Failed error := by
  revert stepped
  fun_cases CollectAndPersist.step texts run event <;> intro stepped
  case case9 report sending => exact .inl (healthy.send sending stepped)
  case case20 =>
    rcases Option.bind_eq_some_iff.mp stepped with ⟨writer, called, made⟩
    obtain rfl := Option.some.inj made
    exact .inl (healthy.call called)
  case case21 source left =>
    rcases Option.bind_eq_some_iff.mp stepped with ⟨⟨writer, error⟩, called, made⟩
    obtain rfl := Option.some.inj made
    exact .inr ⟨error, healthy.callFails called⟩
  all_goals cases stepped
  case case1 report selecting => exact .inl (healthy.merged selecting report)
  case case3 selecting | case5 collectError selecting =>
    exact .inl (healthy.goto (by rw [selecting]; rfl) trivial)
  case case7 enabled =>
    have notReady := healthy.not_errorReady (by rw [enabled.1]; rfl)
    rw [enabled.2] at notReady
    cases notReady
  case case11 outcome joining ended => exact .inl (healthy.join joining ended)
  case case14 succeeds writing =>
    have ended := healthy.collector
    rw [writing] at ended
    refine .inl (healthy.goto (by rw [writing]; rfl) ?_)
    cases succeeds <;> exact ended
  case case16 report reports reportsEq receiving => exact .inl (healthy.receive receiving reportsEq)
  case case18 enabled => exact .inl (healthy.close enabled.1 enabled.2.1 enabled.2.2)

theorem Sound.step {run next : CollectAndPersist} {event : Event}
    (sound : run.Sound texts warmupDuration warmupPause)
    (stepped : run.step texts event = some next) :
    next.Sound texts warmupDuration warmupPause := by
  refine ⟨?_, ?_⟩
  · rcases merged_of_step stepped with ⟨merged, summary⟩ | ⟨report, merged, summary⟩
    · rw [merged, summary]
      exact sound.summary
    · rw [merged, summary, sound.summary, DropSummary.recordAll_append]
  · rcases sound.state with healthy | ⟨error, failed⟩
    · exact healthy.step stepped
    · exact .inr ⟨error, failed.step stepped⟩

theorem sound_of_reachable {run : CollectAndPersist}
    (reachable : (machine texts warmupDuration warmupPause).Reachable run) :
    run.Sound texts warmupDuration warmupPause := by
  apply reachable.invariant
  · rintro _ rfl
    exact sound_new
  · intro _ _ _ sound _ stepped
    exact sound.step stepped

/-! ## After a failure -/

def Collector.weight : Collector → Nat
  | .selecting => 3
  | .sending _ => 2
  | .joining _ => 1
  | .writingMetadata | .returned _ | .panicked => 0

/-- How many steps are left at most once a persister has failed: the channel takes two more
reports. -/
def stepsLeft (run : CollectAndPersist) : Nat :=
  4 * (2 - run.reports.length) + (if run.writer.position = .signalled then 1 else 0) +
    run.collector.weight

theorem Failed.stepsLeft_lt {run next : CollectAndPersist} {event : Event} {error : PersistError}
    (failed : run.Failed error) (stepped : run.step texts event = some next) :
    next.stepsLeft < run.stepsLeft := by
  have known := failed.collector
  have writer := failed.writer
  have receivingNot : run.writer.position ≠ .receiving := by
    rcases writer with position | position <;> rw [position] <;> exact nofun
  unfold stepsLeft
  revert stepped
  fun_cases CollectAndPersist.step texts run event <;> intro stepped
  case case9 report sending =>
    rw [sending] at known ⊢
    have left : run.error = some error := known
    unfold CollectAndPersist.send CollectAndPersist.expectError at stepped
    rw [left] at stepped
    split_ifs at stepped <;> cases stepped
    · simp [Collector.weight]
    · simp only [List.length_append, List.length_singleton, Collector.weight]
      omega
  case case20 =>
    rcases Option.bind_eq_some_iff.mp stepped with ⟨next, called, made⟩
    obtain rfl := Option.some.inj made
    have signalled := writer.resolve_right (WriterLoop.position_of_call called).2.1
    simp only [WriterLoop.call, signalled] at called
    cases called
    simp [signalled, WriterLoop.goto]
  case case21 source left =>
    rcases Option.bind_eq_some_iff.mp stepped with ⟨⟨next, again⟩, called, made⟩
    have calling := (WriterLoop.callFails_eq_some called).2
    rcases writer with position | position <;> rw [position] at calling <;> cases calling
  all_goals cases stepped
  case case1 report selecting | case3 selecting | case5 collectError selecting =>
    rw [selecting]
    exact Nat.add_lt_add_left (by simp [Collector.weight, CollectAndPersist.goto]) _
  case case7 enabled =>
    rw [enabled.1] at known
    have left : run.error = some error := known
    simp [CollectAndPersist.expectError, left, enabled.1, Collector.weight]
  case case11 outcome joining ended =>
    have returns : (run.join outcome).reports = run.reports ∧
        (run.join outcome).writer = run.writer ∧ (run.join outcome).collector.weight = 0 := by
      unfold CollectAndPersist.join
      split <;> exact ⟨rfl, rfl, rfl⟩
    rw [returns.1, returns.2.1, returns.2.2, joining]
    simp [Collector.weight]
  case case14 succeeds writing =>
    rw [writing] at known
    cases known
  case case16 report reports _ receiving => exact absurd receiving receivingNot
  case case18 enabled => exact absurd enabled.1 receivingNot

/-- Somebody can move until `run` has returned. -/
theorem Failed.progress {run : CollectAndPersist} {error : PersistError}
    (failed : run.Failed error) (stuck : ∀ event, run.step texts event = none) :
    ∃ result, run.collector = .returned result := by
  have known := failed.collector
  have ended : run.writer.position = .ended := by
    refine failed.writer.resolve_left fun signalled => ?_
    have called := stuck .call
    simp [CollectAndPersist.step, WriterLoop.call, signalled] at called
  cases collectorEq : run.collector <;> rw [collectorEq] at known
  case selecting =>
    have merged := stuck .exhausted
    simp [CollectAndPersist.step, collectorEq] at merged
  case sending report =>
    have sent := stuck .send
    simp [CollectAndPersist.step, collectorEq, CollectAndPersist.send, ended] at sent
  case joining outcome =>
    have joined := stuck .join
    simp [CollectAndPersist.step, collectorEq, ended] at joined
  case returned result => exact ⟨result, rfl⟩
  all_goals cases known

/-- A run that goes on after a failure takes a bounded number of steps. -/
theorem Failed.exec {run final : CollectAndPersist} {error : PersistError}
    (failed : run.Failed error) {events : List Event}
    (ran : (machine texts warmupDuration warmupPause).exec (fun _ _ => true) run events =
      some final) : events.length + final.stepsLeft ≤ run.stepsLeft ∧ final.Failed error := by
  induction events generalizing run with
  | nil =>
      obtain rfl : run = final := Option.some.inj ran
      exact ⟨(Nat.zero_add _).le, failed⟩
  | cons event events ih =>
      rcases Option.bind_eq_some_iff.mp ran with ⟨next, stepped, rest⟩
      have less := failed.stepsLeft_lt stepped
      rcases ih (failed.step stepped) rest with ⟨bounded, finalFailed⟩
      refine ⟨?_, finalFailed⟩
      rw [List.length_cons]
      omega

theorem stepsLeft_le (run : CollectAndPersist) : run.stepsLeft ≤ 12 := by
  have weight : run.collector.weight ≤ 3 := by
    cases run.collector <;> simp [Collector.weight]
  unfold stepsLeft
  split_ifs <;> omega

/-- The error that `run` returns once a persister has failed. -/
theorem Failed.result {run : CollectAndPersist} {error : PersistError}
    {result : Except Error Unit} (failed : run.Failed error)
    (returned : run.collector = .returned result) :
    result = .error (.persist error) ∨ ∃ collectError, result = .error (.collect collectError) := by
  have known := failed.collector
  rw [returned] at known
  rcases result with (collectError | persistError | _) | _
  · exact .inr ⟨collectError, rfl⟩
  · obtain rfl : persistError = error := known
    exact .inl rfl
  · cases known
  · cases known

/-- The phases that a summary counts reports in, one after the other. -/
theorem phase_recordAll_take (reports : List IntervalReport) {index : Nat}
    (bound : index < reports.length) :
    (DropSummary.recordAll warmupDuration warmupPause (reports.take index)).classifier.phase =
      phaseOf warmupDuration warmupPause index := by
  rw [DropSummary.classifier_recordAll, List.length_take_of_le bound.le]
  rfl

/-- The phases that the writer task tells apart are those of the summary. -/
theorem mapIdx_phase (row : IntervalReport → Phase → String) (reports : List IntervalReport) :
    (reports.mapIdx fun index report => row report (phaseOf warmupDuration warmupPause index)) =
      reports.mapIdx fun index report =>
        row report (DropSummary.recordAll warmupDuration warmupPause
          (reports.take index)).classifier.phase := by
  apply List.ext_getElem
  · rw [List.length_mapIdx, List.length_mapIdx]
  · intro index bound _
    rw [List.length_mapIdx] at bound
    rw [List.getElem_mapIdx, List.getElem_mapIdx, phase_recordAll_take reports bound]

/-- The files of a run that has succeeded. -/
theorem Healthy.files {run : CollectAndPersist}
    (healthy : run.Healthy texts warmupDuration warmupPause)
    (returned : run.collector = .returned (.ok ())) :
    run.writer.interval.file =
        IntervalCsvPersister.expected texts warmupDuration warmupPause run.merged ∧
      run.writer.transactions.file = TransactionCsvPersister.expected texts run.merged := by
  have ended := healthy.collector
  rw [returned] at ended
  have position : run.writer.position = .ended := ended
  rcases healthy.taken with ⟨taken, mergedEq, -, wrote⟩
  unfold WriterLoop.Wrote at wrote
  rw [position] at wrote
  rcases wrote with ⟨rows, flushed⟩
  obtain rfl : run.merged = taken := by
    rw [mergedEq, healthy.drained (.inl position), returned]
    simp [Collector.inHand]
  constructor
  · rw [BufWriter.file_eq_text (flushed.interval List.not_mem_nil), rows.interval]
  · rw [BufWriter.file_eq_text (flushed.transactions List.not_mem_nil), rows.transactions]

/-- The two `expect`s never fail; once a persister has failed, `run` comes to an end with an
error after a few more steps; and a run that succeeds has written the row of each merged
report once, in order and under the phase that it was counted in. -/
theorem persisted_once {run : CollectAndPersist}
    (reachable : (machine texts warmupDuration warmupPause).Reachable run) :
    run.collector ≠ .panicked ∧
    (∀ error, run.failed = some error →
      (∀ result, run.collector = .returned result → result = .error (.persist error) ∨
        ∃ collectError, result = .error (.collect collectError)) ∧
      ∀ events final, (machine texts warmupDuration warmupPause).exec (fun _ _ => true) run events =
        some final → events.length ≤ 12 ∧
          ((∀ event, final.step texts event = none) →
            ∃ result, final.collector = .returned result ∧ result ≠ .ok ())) ∧
    (run.collector = .returned (.ok ()) →
      run.writer.interval.file =
        fileText (IntervalCsvPersister.header :: run.merged.mapIdx fun index report =>
          IntervalCsvPersister.formatRow texts report
            (DropSummary.recordAll warmupDuration warmupPause
              (run.merged.take index)).classifier.phase) ∧
      run.writer.transactions.file =
        fileText (TransactionCsvPersister.header ::
          (run.merged.flatMap (·.results)).map (TransactionCsvPersister.formatRow texts)) ∧
      run.summary = .recordAll warmupDuration warmupPause run.merged) := by
  have sound := sound_of_reachable reachable
  refine ⟨?_, ?_, ?_⟩
  · intro panicked
    rcases sound.state with healthy | ⟨error, failed⟩
    · have isHealthy := healthy.collector
      rw [panicked] at isHealthy
      exact isHealthy
    · have known := failed.collector
      rw [panicked] at known
      exact known
  · intro error failedEq
    have failed : run.Failed error := by
      rcases sound.state with healthy | ⟨known, failed⟩
      · rw [healthy.failed] at failedEq
        cases failedEq
      · rw [failed.failed] at failedEq
        cases failedEq
        exact failed
    refine ⟨fun result returned => failed.result returned, fun events final ran => ?_⟩
    rcases failed.exec ran with ⟨bounded, finalFailed⟩
    refine ⟨(Nat.le_add_right _ _).trans (bounded.trans run.stepsLeft_le), fun stuck => ?_⟩
    rcases finalFailed.progress stuck with ⟨result, returned⟩
    refine ⟨result, returned, ?_⟩
    rcases finalFailed.result returned with known | ⟨collectError, known⟩ <;> rw [known] <;>
      exact nofun
  · intro returned
    rcases sound.state with healthy | ⟨error, failed⟩
    · rcases healthy.files returned with ⟨interval, transactions⟩
      refine ⟨?_, transactions, sound.summary⟩
      rw [interval, IntervalCsvPersister.expected, mapIdx_phase]
    · rcases failed.result returned with known | ⟨collectError, known⟩ <;> cases known

section TwoReports

private def plainTexts : Texts := ⟨fun number => toString number.bits.toNat, id⟩

private def reportAt (second : Nat) : IntervalReport :=
  ⟨⟨.fromSecs second⟩, 1, .default, none⟩

/-- The second report is sent while the writer persists the first one. -/
private def twoReports : List Event :=
  [.merged (reportAt 1), .send, .receive, .call, .merged (reportAt 2), .send, .exhausted] ++
    List.replicate 7 .call ++ [.receive] ++ List.replicate 8 .call ++ [.close] ++
    List.replicate 4 .call ++ [.join, .writeMetadata true]

theorem persisted_once_twoReports : ∃ run, (machine plainTexts 1 0).Reachable run ∧
    run.merged = [reportAt 1, reportAt 2] ∧
      run.writer.interval.file = fileText (IntervalCsvPersister.header ::
        run.merged.mapIdx fun index report => IntervalCsvPersister.formatRow plainTexts report
          (DropSummary.recordAll 1 0 (run.merged.take index)).classifier.phase) := by
  rcases (machine plainTexts 1 0).exists_reachable_of_exec rfl twoReports
    (fun run => decide (run.collector = .returned (.ok ()) ∧
      run.merged = [reportAt 1, reportAt 2]))
    (by decide) with ⟨run, reachable, checked⟩
  rcases of_decide_eq_true checked with ⟨returned, merged⟩
  exact ⟨run, reachable, merged, ((persisted_once reachable).2.2 returned).1⟩

end TwoReports

end CollectAndPersist

end CreoBench
