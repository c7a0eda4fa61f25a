import CreoBench.Transaction

/-!
# The tracker of a load generator

`logResult` and `intervalStatistics` are each one indivisible operation here.
Counters are unbounded and are cut to 64 bits where a snapshot reads them.
The facts that carry later modules: the outcome totals grow by one with every
logged result, and a snapshot takes exactly the pending results.
-/

namespace CreoBench

structure Counts where
  success : Nat
  failed : Nat
  timeout : Nat
  dropped : Nat
  deriving DecidableEq

namespace Counts

def zero : Counts := ⟨0, 0, 0, 0⟩

/-- Increment the counter of the outcome of `result`. -/
def increment (counts : Counts) : TransactionResult → Counts
  | .success .. => { counts with success := counts.success + 1 }
  | .failed .. => { counts with failed := counts.failed + 1 }
  | .timeout .. => { counts with timeout := counts.timeout + 1 }
  | .dropped .. => { counts with dropped := counts.dropped + 1 }

/-- `TotalCounts::sum`. -/
def sum (counts : Counts) : Nat :=
  counts.success + counts.failed + counts.timeout + counts.dropped

@[simp]
theorem sum_zero : zero.sum = 0 := rfl

@[simp]
theorem sum_increment (counts : Counts) (result : TransactionResult) :
    (counts.increment result).sum = counts.sum + 1 := by
  cases result <;> simp only [increment, sum] <;> omega

end Counts

structure IntervalTracker where
  counts : Counts
  serviceTimeSum : Nat
  serviceTimeCount : Nat
  transactionResults : List TransactionResult
  deriving DecidableEq

namespace IntervalTracker

def empty : IntervalTracker where
  counts := .zero
  serviceTimeSum := 0
  serviceTimeCount := 0
  transactionResults := []

/-- Dropped transactions have no service time. -/
def addServiceTime (interval : IntervalTracker) : TransactionResult → IntervalTracker
  | .success _ _ serviceTime | .failed _ _ serviceTime _ | .timeout _ _ serviceTime _ =>
      { interval with
        serviceTimeSum := interval.serviceTimeSum + serviceTime.asMillis.toNat
        serviceTimeCount := interval.serviceTimeCount + 1 }
  | .dropped .. => interval

def logResult (interval : IntervalTracker) (result : TransactionResult) :
    IntervalTracker :=
  { interval.addServiceTime result with
    counts := interval.counts.increment result
    transactionResults := interval.transactionResults ++ [result] }

end IntervalTracker

/-- What a snapshot of an interval contains and what travels in a report. -/
structure IntervalStatistics where
  successfulTransactions : UInt64
  failedTransactions : UInt64
  timeoutTransactions : UInt64
  droppedTransactions : UInt64
  responseTimeSum : UInt64
  responseTimeCount : UInt64
  transactionResults : List TransactionResult
  deriving DecidableEq

namespace IntervalStatistics

def default : IntervalStatistics := ⟨0, 0, 0, 0, 0, 0, []⟩

/-- `Add`: field by field, the results of the second after those of the first. -/
def add (first second : IntervalStatistics) : IntervalStatistics where
  successfulTransactions := first.successfulTransactions + second.successfulTransactions
  failedTransactions := first.failedTransactions + second.failedTransactions
  timeoutTransactions := first.timeoutTransactions + second.timeoutTransactions
  droppedTransactions := first.droppedTransactions + second.droppedTransactions
  responseTimeSum := first.responseTimeSum + second.responseTimeSum
  responseTimeCount := first.responseTimeCount + second.responseTimeCount
  transactionResults := first.transactionResults ++ second.transactionResults

/-- `Sum`: a left fold from the default. -/
def sum (stats : List IntervalStatistics) : IntervalStatistics :=
  stats.foldl add default

/-- In whole milliseconds; zero without any measurement. -/
def averageResponseTime (stats : IntervalStatistics) : UInt64 :=
  if stats.responseTimeCount = 0 then 0
  else stats.responseTimeSum / stats.responseTimeCount

@[simp]
theorem default_transactionResults : default.transactionResults = [] := rfl

@[simp]
theorem add_transactionResults (first second : IntervalStatistics) :
    (first.add second).transactionResults =
      first.transactionResults ++ second.transactionResults := rfl

theorem foldl_add_transactionResults (initial : IntervalStatistics)
    (stats : List IntervalStatistics) :
    (stats.foldl add initial).transactionResults =
      initial.transactionResults ++ stats.flatMap (·.transactionResults) := by
  induction stats generalizing initial with
  | nil => simp
  | cons head tail ih => simp [ih, List.append_assoc]

theorem sum_transactionResults (stats : List IntervalStatistics) :
    (sum stats).transactionResults = stats.flatMap (·.transactionResults) := by
  simp [sum, foldl_add_transactionResults]

end IntervalStatistics

structure Tracker where
  total : Counts
  interval : IntervalTracker
  dispatched : Nat
  deriving DecidableEq

namespace Tracker

def new : Tracker where
  total := .zero
  interval := .empty
  dispatched := 0

def logResult (tracker : Tracker) (result : TransactionResult) : Tracker :=
  { tracker with
    total := tracker.total.increment result
    interval := tracker.interval.logResult result }

/-- Take the statistics of the current interval and start the next one. -/
def intervalStatistics (tracker : Tracker) : IntervalStatistics × Tracker :=
  ({ successfulTransactions := UInt64.ofNat tracker.interval.counts.success
     failedTransactions := UInt64.ofNat tracker.interval.counts.failed
     timeoutTransactions := UInt64.ofNat tracker.interval.counts.timeout
     droppedTransactions := UInt64.ofNat tracker.interval.counts.dropped
     responseTimeSum := UInt64.ofNat tracker.interval.serviceTimeSum
     responseTimeCount := UInt64.ofNat tracker.interval.serviceTimeCount
     transactionResults := tracker.interval.transactionResults },
   { tracker with interval := .empty })

def logDispatched (tracker : Tracker) (count : Nat) : Tracker :=
  { tracker with dispatched := tracker.dispatched + count }

def inflightCount (tracker : Tracker) : Nat :=
  tracker.dispatched - tracker.total.sum

end Tracker

end CreoBench
