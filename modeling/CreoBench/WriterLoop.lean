import CreoBench.Collect
import CreoBench.Library.TransitionSystem
import CreoBench.Persisters

/-!
# Collecting and persisting

`collect_and_persist`, the end of `run` after it, and the writer task.  A merged
report goes through a channel that holds two; the first error of a persister
comes back through a channel of its own, whose sender the writer drops together
with the receiver of the reports when it returns.
-/

namespace CreoBench

structure PersistError where
  name : String
  source : String
  deriving DecidableEq

inductive Persister where
  | console
  | interval
  | transactions
  deriving DecidableEq

namespace WriterLoop

/-- Where `writer_loop` stands: a loop over the persisters has these left. -/
inductive Position where
  | receiving
  | persisting (report : IntervalReport) (phase : Phase) (remaining : List Persister)
  | flushing (remaining : List Persister)
  /-- The loop after the channel is closed. -/
  | closing (remaining : List Persister)
  /-- The error is sent, and the receiver of the reports not dropped yet. -/
  | signalled
  | ended
  deriving DecidableEq

end WriterLoop

structure WriterLoop where
  classifier : PhaseClassifier
  interval : BufWriter
  transactions : BufWriter
  position : WriterLoop.Position
  deriving DecidableEq

namespace WriterLoop

def persisters : List Persister := [.console, .interval, .transactions]

def new (warmupDuration warmupPause : UInt32) : WriterLoop where
  classifier := .new warmupDuration warmupPause
  interval := IntervalCsvPersister.new
  transactions := TransactionCsvPersister.new
  position := .receiving

def persist (texts : Texts) (writer : WriterLoop) (report : IntervalReport) (phase : Phase) :
    Persister → WriterLoop
  | .console => writer
  | .interval =>
      { writer with
        interval := IntervalCsvPersister.persist texts writer.interval report phase }
  | .transactions =>
      { writer with
        transactions := TransactionCsvPersister.persist texts writer.transactions report }

def flush (writer : WriterLoop) : Persister → WriterLoop
  | .console => writer
  | .interval => { writer with interval := writer.interval.flush }
  | .transactions => { writer with transactions := writer.transactions.flush }

def goto (writer : WriterLoop) (position : Position) : WriterLoop := { writer with position }

def receive (writer : WriterLoop) (report : IntervalReport) : WriterLoop :=
  { writer with
    classifier := writer.classifier.classify.2
    position := .persisting report writer.classifier.classify.1 persisters }

/-- The next call of a persister, which succeeds, or the end of a loop. -/
def call (texts : Texts) (writer : WriterLoop) : Option WriterLoop :=
  match writer.position with
  | .persisting report phase (persister :: remaining) =>
      some ((writer.persist texts report phase persister).goto
        (.persisting report phase remaining))
  | .persisting _ _ [] => some (writer.goto (.flushing persisters))
  | .flushing (persister :: remaining) =>
      some ((writer.flush persister).goto (.flushing remaining))
  | .flushing [] => some (writer.goto .receiving)
  | .closing (persister :: remaining) =>
      some ((writer.flush persister).goto (.closing remaining))
  | .closing [] | .signalled => some (writer.goto .ended)
  | .receiving | .ended => none

/-- The persister that is called next. -/
def Position.persister : Position → Option Persister
  | .persisting _ _ (persister :: _) | .flushing (persister :: _)
  | .closing (persister :: _) => some persister
  | _ => none

/-- The next call of a persister fails and leaves anything in its file; the console
persister drops its errors. -/
def callFails (writer : WriterLoop) (source : String) (left : BufWriter) :
    Option (WriterLoop × PersistError) :=
  match writer.position.persister with
  | some .interval =>
      some ({ writer with interval := left, position := .signalled },
        ⟨IntervalCsvPersister.fileName, source⟩)
  | some .transactions =>
      some ({ writer with transactions := left, position := .signalled },
        ⟨TransactionCsvPersister.fileName, source⟩)
  | some .console | none => none

end WriterLoop

inductive CollectOutcome where
  | exhausted
  | collectFailed (error : CollectError)
  | persistFailed (error : PersistError)
  deriving DecidableEq

namespace CollectAndPersist

inductive Error where
  | collect (error : CollectError)
  | persist (error : PersistError)
  | output
  deriving DecidableEq

/-- Where `run` stands in its fourth phase. -/
inductive Collector where
  /-- In the `select!` over `collect_reports` and the error channel. -/
  | selecting
  | sending (report : IntervalReport)
  /-- The sender is dropped; waiting for the writer task. -/
  | joining (outcome : CollectOutcome)
  | writingMetadata
  | returned (result : Except Error Unit)
  /-- One of the two `expect`s has failed. -/
  | panicked
  deriving DecidableEq

inductive Event where
  /-- `collect_reports` returns. -/
  | merged (report : IntervalReport)
  | exhausted
  | collectFailed (error : CollectError)
  /-- The branch of the error channel is taken. -/
  | signalled
  | send
  | join
  | writeMetadata (succeeds : Bool)
  /-- `receiver.recv` returns. -/
  | receive
  | close
  | call
  | callFails (source : String) (left : BufWriter)

end CollectAndPersist

open CollectAndPersist in
structure CollectAndPersist where
  collector : Collector
  summary : DropSummary
  /-- The channel of the reports. -/
  reports : List IntervalReport
  /-- The value in the error channel. -/
  error : Option PersistError
  writer : WriterLoop
  /-- All merged reports. -/
  merged : List IntervalReport
  /-- The error of the call of a persister that has failed. -/
  failed : Option PersistError
  deriving DecidableEq

namespace CollectAndPersist

/-- `report_tx` has not been dropped. -/
def Collector.holdsSender : Collector → Bool
  | .selecting | .sending _ => true
  | _ => false

def new (warmupDuration warmupPause : UInt32) : CollectAndPersist where
  collector := .selecting
  summary := .new warmupDuration warmupPause
  reports := []
  error := none
  writer := .new warmupDuration warmupPause
  merged := []
  failed := none

def goto (run : CollectAndPersist) (collector : Collector) : CollectAndPersist :=
  { run with collector }

/-- The value of the error channel is taken, and there must be one. -/
def expectError (run : CollectAndPersist) : CollectAndPersist :=
  match run.error with
  | some error => { run with error := none, collector := .joining (.persistFailed error) }
  | none => run.goto .panicked

/-- Whether the branch of the error channel is ready: there is a value, or the sender is
gone. -/
def errorReady (run : CollectAndPersist) : Bool :=
  run.error.isSome || decide (run.writer.position = .signalled) ||
    decide (run.writer.position = .ended)

/-- `report_tx.send`, which fails once the receiver is dropped. -/
def send (run : CollectAndPersist) (report : IntervalReport) : Option CollectAndPersist :=
  if run.writer.position = .ended then some run.expectError
  else if run.reports.length < 2 then
    some { run with reports := run.reports ++ [report], collector := .selecting }
  else none

/-- What `run` does with the outcome once the writer task is joined. -/
def join (run : CollectAndPersist) (outcome : CollectOutcome) : CollectAndPersist :=
  match outcome, run.error with
  | .exhausted, some error =>
      { run with error := none, collector := .returned (.error (.persist error)) }
  | .exhausted, none => run.goto .writingMetadata
  | .collectFailed error, _ => run.goto (.returned (.error (.collect error)))
  | .persistFailed error, _ => run.goto (.returned (.error (.persist error)))

def step (texts : Texts) (run : CollectAndPersist) : Event → Option CollectAndPersist
  | .merged report =>
      match run.collector with
      | .selecting =>
          some { run with
            collector := .sending report
            summary := run.summary.record report
            merged := run.merged ++ [report] }
      | _ => none
  | .exhausted =>
      if run.collector = .selecting then some (run.goto (.joining .exhausted)) else none
  | .collectFailed error =>
      if run.collector = .selecting then some (run.goto (.joining (.collectFailed error)))
      else none
  | .signalled =>
      if run.collector = .selecting ∧ run.errorReady then some run.expectError else none
  | .send =>
      match run.collector with
      | .sending report => run.send report
      | _ => none
  | .join =>
      match run.collector with
      | .joining outcome =>
          if run.writer.position = .ended then some (run.join outcome) else none
      | _ => none
  | .writeMetadata succeeds =>
      if run.collector = .writingMetadata then
        some (run.goto (.returned (if succeeds then .ok () else .error .output)))
      else none
  | .receive =>
      match run.writer.position, run.reports with
      | .receiving, report :: reports =>
          some { run with reports, writer := run.writer.receive report }
      | _, _ => none
  | .close =>
      if run.writer.position = .receiving ∧ run.reports = [] ∧
          run.collector.holdsSender = false then
        some { run with writer := run.writer.goto (.closing WriterLoop.persisters) }
      else none
  | .call => do
      let writer ← run.writer.call texts
      return { run with writer }
  | .callFails source left => do
      let (writer, error) ← run.writer.callFails source left
      return { run with writer, error := some error, failed := some error }

/-- Any merged reports with any outcomes of the persisters. -/
def machine (texts : Texts) (warmupDuration warmupPause : UInt32) :
    Machine CollectAndPersist Event where
  initial run := run = new warmupDuration warmupPause
  step := step texts

end CollectAndPersist

end CreoBench
