import CreoBench.TrackerSnapshots

/-!
# Statistics of results that are spread

The results of a run are spread over the trackers of the generators, and every tracker
takes a snapshot at the end of each of its intervals.  Statistics that count what they
list are determined by that list up to its order, and both snapshots and sums are of
this kind.  So the sum of all snapshots says what one tracker says that has logged
everything, whichever way it is added up.
-/

open scoped List

namespace CreoBench

/-- The exact service time in whole milliseconds; dropped transactions have none. -/
def TransactionResult.wholeServiceMillis : TransactionResult → Option Nat
  | .success _ _ serviceTime | .failed _ _ serviceTime _ | .timeout _ _ serviceTime _ =>
      some (Duration.asMillis serviceTime.inner)
  | .dropped .. => none

namespace Tracker

/-- What a tracker returns at the end of each interval that logs these results. -/
def snapshots (tracker : Tracker) : List (List TransactionResult) → List IntervalStatistics
  | [] => []
  | results :: intervals =>
      let taken := (results.foldl logResult tracker).intervalStatistics
      taken.1 :: taken.2.snapshots intervals

/-- The one snapshot of a tracker that has logged these results. -/
def statisticsOf (results : List TransactionResult) : IntervalStatistics :=
  (results.foldl logResult new).intervalStatistics.1

end Tracker

namespace IntervalStatistics

/-- A way to add statistics up. -/
inductive Grouping where
  | nothing
  | part (stats : IntervalStatistics)
  | add (first second : Grouping)

namespace Grouping

def parts : Grouping → List IntervalStatistics
  | .nothing => []
  | .part stats => [stats]
  | .add first second => first.parts ++ second.parts

def value : Grouping → IntervalStatistics
  | .nothing => default
  | .part stats => stats
  | .add first second => first.value.add second.value

/-- `Sum` adds one after the other to the default. -/
def inOrder (stats : List IntervalStatistics) : Grouping :=
  stats.foldl (fun sum next => .add sum (.part next)) .nothing

theorem parts_inOrder (stats : List IntervalStatistics) : (inOrder stats).parts = stats := by
  have grown : ∀ start : Grouping,
      (stats.foldl (fun sum next => Grouping.add sum (.part next)) start).parts =
        start.parts ++ stats := by
    induction stats with
    | nil => simp
    | cons next stats ih =>
        intro start
        rw [List.foldl_cons, ih]
        simp [parts]
  exact grown .nothing

theorem value_inOrder (stats : List IntervalStatistics) : (inOrder stats).value = sum stats := by
  have grown : ∀ start : Grouping,
      (stats.foldl (fun sum next => Grouping.add sum (.part next)) start).value =
        stats.foldl IntervalStatistics.add start.value := by
    induction stats with
    | nil => exact fun _ => rfl
    | cons next stats ih => exact fun start => ih _
  exact grown .nothing

end Grouping

theorem IsSum.add {parts parts' : List IntervalStatistics} {total total' : IntervalStatistics}
    (isSum : IsSum parts total) (isSum' : IsSum parts' total') :
    IsSum (parts ++ parts') (total.add total') where
  successful := by simp [IntervalStatistics.add, isSum.successful, isSum'.successful]
  failed := by simp [IntervalStatistics.add, isSum.failed, isSum'.failed]
  timeout := by simp [IntervalStatistics.add, isSum.timeout, isSum'.timeout]
  dropped := by simp [IntervalStatistics.add, isSum.dropped, isSum'.dropped]
  responseTimeSum := by
    simp [IntervalStatistics.add, isSum.responseTimeSum, isSum'.responseTimeSum]
  responseTimeCount := by
    simp [IntervalStatistics.add, isSum.responseTimeCount, isSum'.responseTimeCount]
  results := by
    rw [List.flatMap_append]
    exact isSum.results.append isSum'.results

/-- However statistics are added up, the result is their sum. -/
theorem Grouping.isSum (grouping : Grouping) : IsSum grouping.parts grouping.value := by
  induction grouping with
  | nothing => exact sum_isSum []
  | part stats => exact ⟨by simp [parts, value], by simp [parts, value], by simp [parts, value],
      by simp [parts, value], by simp [parts, value], by simp [parts, value],
      by simp [parts, value]⟩
  | add first second firstSum secondSum => exact firstSum.add secondSum

end IntervalStatistics

/-! ## Snapshots -/

open TrackerSteps

namespace IntervalTracker

/-- What the tracker has counted so far. -/
def cell (interval : IntervalTracker) : Cell → Nat
  | .count .success => interval.counts.success
  | .count .failed => interval.counts.failed
  | .count .timeout => interval.counts.timeout
  | .count .dropped => interval.counts.dropped
  | .serviceTimeSum => interval.serviceTimeSum
  | .serviceTimeCount => interval.serviceTimeCount

theorem cell_empty (cell : Cell) : empty.cell cell = 0 := by
  cases cell with
  | count variant => cases variant <;> rfl
  | serviceTimeSum => rfl
  | serviceTimeCount => rfl

theorem cell_logResult (interval : IntervalTracker) (result : TransactionResult) (cell : Cell) :
    (interval.logResult result).cell cell = interval.cell cell + amountOf cell result := by
  cases result <;> cases cell with
  | count variant =>
      cases variant <;>
        simp [IntervalTracker.cell, logResult, addServiceTime, Counts.increment, amountOf, updates,
          serviceTimeUpdates, Update.amount, Variant.of]
  | serviceTimeSum | serviceTimeCount =>
      simp [IntervalTracker.cell, logResult, addServiceTime, amountOf, updates,
        serviceTimeUpdates, Update.amount]

/-- Logging adds what the results amount to and keeps them in order. -/
theorem foldl_logResult (interval : IntervalTracker) (results : List TransactionResult) :
    (∀ cell, (results.foldl logResult interval).cell cell =
      interval.cell cell + amounts cell results) ∧
      (results.foldl logResult interval).transactionResults =
        interval.transactionResults ++ results := by
  induction results generalizing interval with
  | nil => exact ⟨fun _ => rfl, (List.append_nil _).symm⟩
  | cons result results ih =>
      obtain ⟨cells, listed⟩ := ih (interval.logResult result)
      constructor
      · intro cell
        rw [List.foldl_cons, cells, cell_logResult, amounts, amounts, List.map_cons,
          List.sum_cons, Nat.add_assoc]
      · rw [List.foldl_cons, listed]
        simp [logResult]

end IntervalTracker

namespace Tracker

theorem foldl_logResult_interval (tracker : Tracker) (results : List TransactionResult) :
    (results.foldl logResult tracker).interval =
      results.foldl IntervalTracker.logResult tracker.interval := by
  induction results generalizing tracker with
  | nil => rfl
  | cons result results ih => exact ih _

theorem cellOf_intervalStatistics (tracker : Tracker) (cell : Cell) :
    cellOf tracker.intervalStatistics.1 cell = UInt64.ofNat (tracker.interval.cell cell) := by
  cases cell with
  | count variant => cases variant <;> rfl
  | serviceTimeSum => rfl
  | serviceTimeCount => rfl

/-- The snapshot of an interval lists the results that were logged in it and counts them. -/
theorem snapshot_spec {tracker : Tracker} (fresh : tracker.interval = .empty)
    (results : List TransactionResult) :
    (results.foldl logResult tracker).intervalStatistics.1.transactionResults = results ∧
      SelfConsistent (results.foldl logResult tracker).intervalStatistics.1 := by
  obtain ⟨cells, listed⟩ := IntervalTracker.foldl_logResult .empty results
  have lists : (results.foldl logResult tracker).intervalStatistics.1.transactionResults =
      results := by
    change (results.foldl logResult tracker).interval.transactionResults = results
    rw [foldl_logResult_interval, fresh, listed]
    rfl
  refine ⟨lists, selfConsistent_of_cells fun cell => ?_⟩
  rw [cellOf_intervalStatistics, foldl_logResult_interval, fresh, cells, lists,
    IntervalTracker.cell_empty, Nat.zero_add]

/-- The snapshots of a tracker list what it has logged, interval by interval. -/
theorem snapshots_spec {tracker : Tracker} (fresh : tracker.interval = .empty)
    (intervals : List (List TransactionResult)) :
    (tracker.snapshots intervals).map (·.transactionResults) = intervals ∧
      ∀ stats ∈ tracker.snapshots intervals, SelfConsistent stats := by
  induction intervals generalizing tracker with
  | nil => exact ⟨rfl, fun _ member => nomatch member⟩
  | cons results intervals ih =>
      obtain ⟨lists, consistent⟩ := snapshot_spec fresh results
      have swapped : (results.foldl logResult tracker).intervalStatistics.2.interval = .empty :=
        rfl
      obtain ⟨laterLists, laterConsistent⟩ := ih swapped
      constructor
      · rw [snapshots, List.map_cons, lists, laterLists]
      · intro stats member
        rcases List.mem_cons.mp member with rfl | later
        · exact consistent
        · exact laterConsistent stats later

end Tracker

/-! ## Sums of snapshots -/

/-- The same counters and, in some order, the same results. -/
structure IntervalStatistics.SameUpToOrder (first second : IntervalStatistics) : Prop where
  successful : first.successfulTransactions = second.successfulTransactions
  failed : first.failedTransactions = second.failedTransactions
  timeout : first.timeoutTransactions = second.timeoutTransactions
  dropped : first.droppedTransactions = second.droppedTransactions
  responseTimeSum : first.responseTimeSum = second.responseTimeSum
  responseTimeCount : first.responseTimeCount = second.responseTimeCount
  results : first.transactionResults ~ second.transactionResults

/-- The listed results determine the counters. -/
theorem TrackerSteps.SelfConsistent.sameUpToOrder {first second : IntervalStatistics}
    (firstConsistent : SelfConsistent first) (secondConsistent : SelfConsistent second)
    (reordered : first.transactionResults ~ second.transactionResults) :
    first.SameUpToOrder second := by
  have sameCells : ∀ cell, cellOf first cell = cellOf second cell := by
    intro cell
    rw [firstConsistent.cells, secondConsistent.cells]
    exact congrArg UInt64.ofNat (reordered.map (amountOf cell)).sum_eq
  exact
    { successful := sameCells (.count .success)
      failed := sameCells (.count .failed)
      timeout := sameCells (.count .timeout)
      dropped := sameCells (.count .dropped)
      responseTimeSum := sameCells .serviceTimeSum
      responseTimeCount := sameCells .serviceTimeCount
      results := reordered }

/-- No service time is cut to 64 bits if their sum fits. -/
theorem filterMap_serviceMillis {results : List TransactionResult}
    (fits : (results.filterMap (·.wholeServiceMillis)).sum < 2 ^ 64) :
    results.filterMap (·.serviceMillis) = results.filterMap (·.wholeServiceMillis) := by
  have exact : ∀ result ∈ results, result.serviceMillis = result.wholeServiceMillis := by
    intro result member
    cases wholeEq : result.wholeServiceMillis with
    | none => cases result <;> simp_all [TransactionResult.wholeServiceMillis,
        TransactionResult.serviceMillis]
    | some millis =>
        have small : millis < 2 ^ 64 := (List.le_sum_of_mem
          (List.mem_filterMap.mpr ⟨result, member, wholeEq⟩)).trans_lt fits
        cases result with
        | dropped => cases wholeEq
        | success | failed | timeout =>
            cases wholeEq
            exact congrArg some (UInt64.toNat_ofNat_of_lt' small)
  exact List.filterMap_congr exact

section

variable {results : List TransactionResult} {shares : List (List (List TransactionResult))}
variable {grouping : IntervalStatistics.Grouping}

/-- `shares` has the intervals of every tracker. -/
theorem merged_spec (spread : shares.flatten.flatten ~ results)
    (covers : grouping.parts ~ shares.flatMap (Tracker.new.snapshots ·)) :
    grouping.value.transactionResults ~ results ∧ SelfConsistent grouping.value := by
  have fresh : Tracker.new.interval = .empty := rfl
  have isSum := grouping.isSum.perm covers
  have lists : (shares.flatMap (Tracker.new.snapshots ·)).flatMap (·.transactionResults) =
      shares.flatten.flatten := by
    rw [List.flatMap_def, List.map_flatMap]
    simp only [(Tracker.snapshots_spec fresh _).1]
    rw [List.flatMap_id']
  constructor
  · have listed := isSum.results
    rw [lists] at listed
    exact listed.trans spread
  · apply SelfConsistent.merge isSum
    intro stats member
    obtain ⟨intervals, -, taken⟩ := List.mem_flatMap.mp member
    exact (Tracker.snapshots_spec fresh intervals).2 stats taken

/-- The snapshots of all trackers, added up one after the other. -/
theorem sum_snapshots_spec (spread : shares.flatten.flatten ~ results) :
    let total := IntervalStatistics.sum (shares.flatMap (Tracker.new.snapshots ·))
    total.transactionResults ~ results ∧ SelfConsistent total := by
  have inOrder := merged_spec spread (.of_eq (IntervalStatistics.Grouping.parts_inOrder _))
  rw [IntervalStatistics.Grouping.value_inOrder] at inOrder
  exact inOrder

/-- The results are spread over trackers, each with its intervals, and the snapshots are
added up in some order and grouping. -/
theorem statistics_independent_of_spread (spread : shares.flatten.flatten ~ results)
    (covers : grouping.parts ~ shares.flatMap (Tracker.new.snapshots ·)) :
    grouping.value.SameUpToOrder (Tracker.statisticsOf results) ∧
      grouping.value.transactionResults ~ results ∧
      ((results.filterMap (·.wholeServiceMillis)).sum < 2 ^ 64 →
        (results.countP fun result => !result.isDropped) < 2 ^ 64 →
          grouping.value.averageResponseTime.toNat =
            if (results.countP fun result => !result.isDropped) = 0 then 0
            else (results.filterMap (·.wholeServiceMillis)).sum /
              results.countP fun result => !result.isDropped) := by
  obtain ⟨listed, consistent⟩ := merged_spec spread covers
  have fresh : Tracker.new.interval = .empty := rfl
  obtain ⟨wholeListed, wholeConsistent⟩ := Tracker.snapshot_spec fresh results
  refine ⟨consistent.sameUpToOrder wholeConsistent ?_, listed, ?_⟩
  · exact listed.trans (.of_eq wholeListed.symm)
  · intro shortTimes fewResults
    have sameMillis := (listed.filterMap (·.serviceMillis)).sum_eq
    have sameCount := listed.countP_eq fun result => !result.isDropped
    rw [filterMap_serviceMillis shortTimes] at sameMillis
    rw [consistent.averageResponseTime (by rwa [sameCount]) (by rwa [sameMillis]), sameMillis,
      sameCount]
    split_ifs with none
    · rw [none, Nat.div_zero]
    · rfl

end

/-- A success of 5 ms, a failure of 10 ms and a dropped transaction. -/
def threeResults : List TransactionResult :=
  [.success ⟨⟨0⟩, ⟨0⟩, ⟨0⟩, ⟨0⟩, ⟨0⟩, ⟨0⟩⟩ ⟨Duration.fromMillis 7⟩ ⟨Duration.fromMillis 5⟩,
    .failed ⟨⟨0⟩, ⟨1⟩, ⟨1⟩, ⟨0⟩, ⟨0⟩, ⟨0⟩⟩ ⟨Duration.fromMillis 10⟩ ⟨Duration.fromMillis 10⟩
      (.status 500),
    .dropped ⟨none, ⟨1⟩, ⟨0⟩, ⟨0⟩⟩ ⟨Duration.fromMillis 11⟩ .late]

/-- One tracker logs the dropped transaction and, in its next interval, the failure; another
one logs the success. -/
def threeIntervals : List (List (List TransactionResult)) :=
  [[threeResults.drop 2, (threeResults.drop 1).take 1], [threeResults.take 1]]

/-- The snapshot of the second tracker is added to the sum of those of the first one, of which
the later comes first. -/
def threeSnapshots : IntervalStatistics.Grouping :=
  .add (.part (Tracker.statisticsOf (threeResults.take 1)))
    (.add (.part (Tracker.statisticsOf ((threeResults.drop 1).take 1)))
      (.part (Tracker.statisticsOf (threeResults.drop 2))))

theorem statistics_independent_of_spread_twoTrackers :
    threeSnapshots.value.SameUpToOrder (Tracker.statisticsOf threeResults) ∧
      threeSnapshots.value.averageResponseTime.toNat = 7 := by
  have spread : threeIntervals.flatten.flatten ~ threeResults := by decide
  have covers : threeSnapshots.parts ~ threeIntervals.flatMap (Tracker.new.snapshots ·) := by
    decide
  obtain ⟨same, -, average⟩ := statistics_independent_of_spread spread covers
  exact ⟨same, average (by decide) (by decide)⟩

end CreoBench
