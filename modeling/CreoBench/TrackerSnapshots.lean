import CreoBench.MergeRound
import CreoBench.Persisters
import CreoBench.TrackerSteps

/-!
# What a snapshot counts

The counters of a snapshot and its results are taken one after the other, so a
result may be counted in one interval and listed in the next.  Here every call
of `log_result` carries the number of the interval its count falls into.  If it
stays within that interval and no snapshot ends before it, every snapshot counts
exactly the results it lists.
-/

open scoped List

namespace CreoBench

/-- The service time in whole milliseconds; dropped transactions have none. -/
def TransactionResult.serviceMillis : TransactionResult → Option Nat
  | .success _ _ serviceTime | .failed _ _ serviceTime _ | .timeout _ _ serviceTime _ =>
      some serviceTime.asMillis.toNat
  | .dropped .. => none

namespace TrackerSteps

/-- The counters count the results that are listed with them. -/
structure SelfConsistent (statistics : IntervalStatistics) : Prop where
  counts : ∀ variant, cellOf statistics (.count variant) =
    UInt64.ofNat (statistics.transactionResults.countP fun result => Variant.of result = variant)
  responseTimeSum : statistics.responseTimeSum =
    UInt64.ofNat (statistics.transactionResults.filterMap (·.serviceMillis)).sum
  responseTimeCount : statistics.responseTimeCount =
    UInt64.ofNat (statistics.transactionResults.countP fun result => !result.isDropped)

/-! ## Counting a list of results -/

/-- What logging a result adds to a cell. -/
def amountOf (cell : Cell) (result : TransactionResult) : Nat :=
  ((updates result).map (Update.amount cell)).sum

/-- What logging some results adds to a cell. -/
def amounts (cell : Cell) (results : List TransactionResult) : Nat :=
  (results.map (amountOf cell)).sum

theorem amounts_count (variant : Variant) (results : List TransactionResult) :
    amounts (.count variant) results =
      results.countP fun result => Variant.of result = variant := by
  induction results with
  | nil => rfl
  | cons result results ih =>
      have one : amountOf (.count variant) result =
          if Variant.of result = variant then 1 else 0 := by
        cases result <;> simp [amountOf, updates, serviceTimeUpdates, Update.amount]
      simp only [amounts, List.map_cons, List.sum_cons, List.countP_cons, decide_eq_true_eq,
        one] at ih ⊢
      omega

theorem amounts_serviceTimeSum (results : List TransactionResult) :
    amounts .serviceTimeSum results = (results.filterMap (·.serviceMillis)).sum := by
  induction results with
  | nil => rfl
  | cons result results ih =>
      simp only [amounts, List.map_cons, List.sum_cons] at ih ⊢
      cases result <;>
        simp [amountOf, updates, serviceTimeUpdates, Update.amount, ih,
          TransactionResult.serviceMillis]

theorem amounts_serviceTimeCount (results : List TransactionResult) :
    amounts .serviceTimeCount results = results.countP fun result => !result.isDropped := by
  induction results with
  | nil => rfl
  | cons result results ih =>
      simp only [amounts, List.map_cons, List.sum_cons] at ih ⊢
      cases result <;>
        simp [amountOf, updates, serviceTimeUpdates, Update.amount, ih,
          TransactionResult.isDropped, Nat.add_comm]

theorem selfConsistent_of_cells {statistics : IntervalStatistics}
    (cells : ∀ cell, cellOf statistics cell =
      UInt64.ofNat (amounts cell statistics.transactionResults)) :
    SelfConsistent statistics where
  counts variant := by rw [cells, amounts_count]
  responseTimeSum := by rw [← amounts_serviceTimeSum, ← cells]; rfl
  responseTimeCount := by rw [← amounts_serviceTimeCount, ← cells]; rfl

theorem SelfConsistent.cells {statistics : IntervalStatistics}
    (consistent : SelfConsistent statistics) (cell : Cell) :
    cellOf statistics cell = UInt64.ofNat (amounts cell statistics.transactionResults) := by
  cases cell with
  | count variant => rw [amounts_count, consistent.counts]
  | serviceTimeSum => rw [amounts_serviceTimeSum, ← consistent.responseTimeSum]; rfl
  | serviceTimeCount => rw [amounts_serviceTimeCount, ← consistent.responseTimeCount]; rfl

theorem amounts_flatMap (cell : Cell) (parts : List IntervalStatistics) :
    amounts cell (parts.flatMap (·.transactionResults)) =
      (parts.map fun part => amounts cell part.transactionResults).sum := by
  induction parts with
  | nil => rfl
  | cons part parts ih =>
      simp only [amounts, List.flatMap_cons, List.map_append, List.sum_append, List.map_cons,
        List.sum_cons] at ih ⊢
      rw [ih]

/-- Every counter of a sum is the sum of that counter. -/
theorem cellOf_isSum {parts : List IntervalStatistics} {total : IntervalStatistics}
    (isSum : IntervalStatistics.IsSum parts total) (cell : Cell) :
    cellOf total cell = (parts.map (cellOf · cell)).sum := by
  cases cell with
  | count variant =>
      cases variant with
      | success => exact isSum.successful
      | failed => exact isSum.failed
      | timeout => exact isSum.timeout
      | dropped => exact isSum.dropped
  | serviceTimeSum => exact isSum.responseTimeSum
  | serviceTimeCount => exact isSum.responseTimeCount

/-- Merging keeps the counters and the results together. -/
theorem SelfConsistent.merge {parts : List IntervalStatistics} {total : IntervalStatistics}
    (isSum : IntervalStatistics.IsSum parts total)
    (consistent : ∀ part ∈ parts, SelfConsistent part) : SelfConsistent total := by
  apply selfConsistent_of_cells
  intro cell
  have reordered : amounts cell total.transactionResults =
      amounts cell (parts.flatMap (·.transactionResults)) := (isSum.results.map _).sum_eq
  rw [cellOf_isSum isSum, reordered, amounts_flatMap]
  clear isSum reordered
  induction parts with
  | nil => rfl
  | cons part parts ih =>
      rw [List.map_cons, List.sum_cons, List.map_cons, List.sum_cons, UInt64.ofNat_add,
        (consistent part List.mem_cons_self).cells,
        ih fun other member => consistent other (List.mem_cons_of_mem _ member)]

/-! ## Calls and the intervals they fall into -/

/-- A call of `log_result` and the interval that its count fell into. -/
structure IntervalCall where
  call : LogCall
  interval : Nat

/-- The tracker together with the interval of every call. -/
structure Intervals where
  state : State
  calls : List IntervalCall

namespace State

/-- The interval that a cell counts for at the moment. -/
def intervalOf (state : State) (cell : Cell) : Nat :=
  match state.building with
  | none => state.snapshots.length
  | some building =>
      if cell ∈ building.remaining then state.snapshots.length else state.snapshots.length + 1

end State

/-- The interval that an update falls into.  The totals belong to none. -/
def Update.interval (state : State) : Update → Nat
  | .add cell _ => state.intervalOf cell
  | .total _ | .push _ => state.snapshots.length

namespace IntervalCall

/-- The interval is that of the count, the second step. -/
def advance (state : State) (entry : IntervalCall) : IntervalCall where
  call := { entry.call with done := entry.call.done + 1 }
  interval :=
    match entry.call.done, (updates entry.call.result)[entry.call.done]? with
    | 1, some update => update.interval state
    | _, _ => entry.interval

/-- The count has been made. -/
def Counted (entry : IntervalCall) : Prop := 2 ≤ entry.call.done

instance (entry : IntervalCall) : Decidable entry.Counted :=
  inferInstanceAs (Decidable (2 ≤ entry.call.done))

end IntervalCall

namespace Intervals

def advance (intervals : Intervals) : Event → List IntervalCall
  | .beginLog result => intervals.calls ++ [⟨⟨result, 0⟩, 0⟩]
  | .log index => intervals.calls.modify index (IntervalCall.advance intervals.state)
  | _ => intervals.calls

def machine : Machine Intervals Event where
  initial intervals := intervals = ⟨State.new, []⟩
  step intervals event :=
    (intervals.state.step event).map fun next => ⟨next, intervals.advance event⟩

/-- A call that has been counted makes its other updates in the same interval, and a
snapshot takes the results once all calls that it has counted are completed. -/
def Unstraddled (intervals : Intervals) : Event → Prop
  | .log index => ∀ entry ∈ intervals.calls[index]?, entry.Counted →
      ∀ update ∈ (updates entry.call.result)[entry.call.done]?,
        update.interval intervals.state = entry.interval
  | .snapshot => ∀ building ∈ intervals.state.building, building.remaining = [] →
      ∀ entry ∈ intervals.calls, entry.Counted →
        entry.interval = intervals.state.snapshots.length → entry.call.completed
  | _ => True

instance (intervals : Intervals) (event : Event) : Decidable (intervals.Unstraddled event) := by
  cases event <;> dsimp only [Unstraddled] <;> infer_instance

end Intervals

/-! ## What belongs to an interval -/

namespace State

/-- What a cell has counted for an interval so far. -/
def held (state : State) (cell : Cell) (interval : Nat) : UInt64 :=
  if interval = state.intervalOf cell then state.cells cell
  else if interval = state.snapshots.length then
    match state.building with
    | none => 0
    | some building => building.taken cell
  else
    match state.snapshots[interval]? with
    | none => 0
    | some statistics => cellOf statistics cell

/-- The results that are listed for an interval so far. -/
def listed (state : State) (interval : Nat) : List TransactionResult :=
  if interval = state.snapshots.length then state.results
  else
    match state.snapshots[interval]? with
    | none => []
    | some statistics => statistics.transactionResults

end State

namespace IntervalCall

/-- The updates of the interval that a call has made, which are all but the first. -/
def made (interval : Nat) (entry : IntervalCall) : List Update :=
  if entry.interval = interval then
    ((updates entry.call.result).take entry.call.done).drop 1
  else []

/-- A step of logging is one more update of its interval, unless it is the first step. -/
theorem made_advance {state : State} {entry : IntervalCall} {update : Update}
    (updateEq : (updates entry.call.result)[entry.call.done]? = some update)
    (within : entry.Counted → update.interval state = entry.interval) (interval : Nat) :
    (entry.advance state).made interval = entry.made interval ++
      if 0 < entry.call.done ∧ update.interval state = interval then [update] else [] := by
  rcases entry with ⟨⟨result, done⟩, own⟩
  have grown : (updates result).take (done + 1) = (updates result).take done ++ [update] := by
    simp only at updateEq
    rw [List.take_add_one, updateEq]
    rfl
  cases done with
  | zero =>
      simp only [made, advance, grown]
      simp
  | succ done =>
      have first : 1 ≤ ((updates result).take (done + 1)).length := by
        rw [List.length_take]
        have nonempty : 0 < (updates result).length := by simp [updates]
        omega
      cases done with
      | zero =>
          simp only at updateEq
          simp only [made, advance, updateEq, grown, List.drop_append_of_le_length first]
          by_cases same : update.interval state = interval
          · simp [same, updates]
          · simp [same, updates]
      | succ done =>
          have stays := within (Nat.le_add_left 2 done)
          simp only at stays
          simp only [made, advance, grown, List.drop_append_of_le_length first, stays]
          by_cases same : own = interval
          · simp [same]
          · simp [same]

end IntervalCall

namespace Intervals

/-- The updates that fell into an interval. -/
def made (intervals : Intervals) (interval : Nat) : List Update :=
  intervals.calls.flatMap (IntervalCall.made interval)

/-- Every interval counts and lists what was logged in it. -/
structure Attributed (intervals : Intervals) : Prop where
  calls : intervals.calls.map (·.call) = intervals.state.logCalls
  held : ∀ cell interval, intervals.state.held cell interval =
    UInt64.ofNat (((intervals.made interval).map (Update.amount cell)).sum)
  listed : ∀ interval, intervals.state.listed interval ~
    (intervals.made interval).filterMap Update.pushed
  completed : ∀ entry ∈ intervals.calls, entry.Counted →
    entry.interval < intervals.state.snapshots.length → entry.call.completed

end Intervals

/-! ## The steps of the tracker -/

namespace State

theorem length_le_intervalOf (state : State) (cell : Cell) :
    state.snapshots.length ≤ state.intervalOf cell := by
  unfold intervalOf
  cases state.building with
  | none => exact Nat.le_refl _
  | some building => simp only; split <;> omega

theorem length_le_interval (state : State) (update : Update) :
    state.snapshots.length ≤ update.interval state := by
  cases update with
  | total variant => exact Nat.le_refl _
  | add cell amount => exact state.length_le_intervalOf cell
  | push result => exact Nat.le_refl _

theorem intervalOf_update (state : State) (update : Update) (cell : Cell) :
    (state.update update).intervalOf cell = state.intervalOf cell := by
  cases update <;> rfl

/-- An update counts for its interval and for no other. -/
theorem held_update (state : State) (update : Update) (cell : Cell) (interval : Nat) :
    (state.update update).held cell interval = state.held cell interval +
      UInt64.ofNat (if update.interval state = interval then update.amount cell else 0) := by
  rcases update_snapshots state update with ⟨sameSnapshots, sameBuilding⟩
  unfold held
  rw [intervalOf_update, sameSnapshots, sameBuilding]
  cases update with
  | total variant => simp [State.update, Update.amount]
  | push result => simp [State.update, Update.amount]
  | add other amount =>
      by_cases same : other = cell
      · subst same
        by_cases current : interval = state.intervalOf other
        · subst current
          simp [State.update, Update.interval, Update.amount]
        · simp [Update.interval, current, Ne.symm current]
      · simp [State.update, Update.amount, same, Function.update_of_ne (Ne.symm same)]

theorem listed_update (state : State) (update : Update) (interval : Nat) :
    (state.update update).listed interval = state.listed interval ++
      if update.interval state = interval then update.pushed.toList else [] := by
  unfold listed
  rw [(update_snapshots state update).1, update_results]
  cases update with
  | total variant => simp [Update.pushed]
  | add cell amount => simp [Update.pushed]
  | push result =>
      by_cases current : interval = state.snapshots.length
      · simp [Update.pushed, Update.interval, current]
      · simp [Update.interval, current, Ne.symm current]

/-- Nothing has been swapped when a snapshot begins. -/
theorem held_beginSnapshot {state next : State} (stepped : state.step .beginSnapshot = some next)
    (cell : Cell) (interval : Nat) : next.held cell interval = state.held cell interval := by
  unfold State.step at stepped
  cases building : state.building with
  | some call => rw [building] at stepped; cases stepped
  | none =>
      rw [building] at stepped
      cases stepped
      have all : cell ∈ swapOrder := by
        cases cell with
        | count variant => cases variant <;> decide
        | serviceTimeSum => decide
        | serviceTimeCount => decide
      by_cases current : interval = state.snapshots.length
      · simp [held, intervalOf, building, all, current]
      · simp [held, intervalOf, building, all, current]

/-- A swap moves what a cell has counted, and the cell counts for the next interval. -/
theorem held_swap {state : State} {taken : Cell → UInt64} {swapped : Cell}
    {remaining : List Cell} (building : state.building = some ⟨taken, swapped :: remaining⟩)
    (fresh : swapped ∉ remaining) (cell : Cell) (interval : Nat) :
    State.held { state with
        cells := Function.update state.cells swapped 0
        building := some ⟨Function.update taken swapped (state.cells swapped), remaining⟩ }
      cell interval = state.held cell interval := by
  by_cases same : cell = swapped
  · subst same
    rcases Nat.lt_trichotomy interval state.snapshots.length with before | rfl | after
    · have notCurrent := Nat.ne_of_lt before
      have notNext : interval ≠ state.snapshots.length + 1 := by omega
      simp [held, intervalOf, building, fresh, notCurrent, notNext]
    · simp [held, intervalOf, building, fresh]
    · have notCurrent := Nat.ne_of_gt after
      by_cases isNext : interval = state.snapshots.length + 1
      · subst isNext
        simp [held, intervalOf, building, fresh]
      · simp [held, intervalOf, building, fresh, notCurrent, isNext]
  · simp [held, intervalOf, building, same]

/-- The end of a snapshot moves the results as well. -/
theorem held_finish {state : State} {taken : Cell → UInt64}
    (building : state.building = some ⟨taken, []⟩) (cell : Cell) (interval : Nat) :
    State.held { state with
        results := []
        building := none
        snapshots := state.snapshots ++ [statistics taken state.results] } cell interval =
      state.held cell interval := by
  rcases Nat.lt_trichotomy interval state.snapshots.length with before | rfl | after
  · have notCurrent := Nat.ne_of_lt before
    have notNext : interval ≠ state.snapshots.length + 1 := by omega
    simp [held, intervalOf, building, notCurrent, notNext, List.getElem?_append_left before]
  · simp [held, intervalOf, building, cellOf_statistics]
  · have notCurrent := Nat.ne_of_gt after
    by_cases isNext : interval = state.snapshots.length + 1
    · subst isNext
      simp [held, intervalOf, building]
    · have gone : (state.snapshots ++ [statistics taken state.results])[interval]? = none := by
        apply List.getElem?_eq_none
        rw [List.length_append, List.length_singleton]
        omega
      have absent : state.snapshots[interval]? = none := List.getElem?_eq_none after.le
      simp [held, intervalOf, building, notCurrent, isNext, gone, absent]

theorem listed_finish (state : State) (taken : Cell → UInt64) (interval : Nat) :
    State.listed { state with
        results := []
        building := none
        snapshots := state.snapshots ++ [statistics taken state.results] } interval =
      state.listed interval := by
  rcases Nat.lt_trichotomy interval state.snapshots.length with before | rfl | after
  · have notCurrent := Nat.ne_of_lt before
    have notNext : interval ≠ state.snapshots.length + 1 := by omega
    simp [listed, notCurrent, notNext, List.getElem?_append_left before]
  · simp [listed, statistics]
  · have notCurrent := Nat.ne_of_gt after
    by_cases isNext : interval = state.snapshots.length + 1
    · subst isNext
      simp [listed]
    · have absent : state.snapshots[interval]? = none := List.getElem?_eq_none after.le
      have gone : (state.snapshots ++ [statistics taken state.results])[interval]? = none := by
        apply List.getElem?_eq_none
        rw [List.length_append, List.length_singleton]
        omega
      simp [listed, notCurrent, isNext, gone, absent]

end State

namespace Intervals

variable {intervals next : Intervals}

/-- A step that logs nothing and moves nothing between the intervals. -/
theorem Attributed.keep (attributed : intervals.Attributed) (calls : next.calls = intervals.calls)
    (logCalls : next.state.logCalls = intervals.state.logCalls)
    (held : ∀ cell interval, next.state.held cell interval =
      intervals.state.held cell interval)
    (listed : ∀ interval, next.state.listed interval = intervals.state.listed interval)
    (completed : ∀ entry ∈ intervals.calls, entry.Counted →
      entry.interval < next.state.snapshots.length → entry.call.completed) :
    next.Attributed := by
  constructor
  · rw [calls, logCalls]
    exact attributed.calls
  · intro cell interval
    rw [held, made, calls]
    exact attributed.held cell interval
  · intro interval
    rw [listed, made, calls]
    exact attributed.listed interval
  · rw [calls]
    exact completed

theorem step_spec {event : Event} (stepped : machine.step intervals event = some next) :
    intervals.state.step event = some next.state ∧ next.calls = intervals.advance event := by
  rcases Option.map_eq_some_iff.mp stepped with ⟨state, stateEq, rfl⟩
  exact ⟨stateEq, rfl⟩

/-- The first update of a call counts for no interval. -/
theorem sum_made {result : TransactionResult} {done : Nat} {update : Update} {cell : Cell}
    (updateEq : (updates result)[done]? = some update) (within : Prop) [Decidable within] :
    ((if 0 < done ∧ within then [update] else []).map (Update.amount cell)).sum =
      if within then update.amount cell else 0 := by
  rcases updates_total updateEq with ⟨rfl, rfl⟩ | ⟨later, -⟩
  · simp [Update.amount]
  · by_cases holds : within <;> simp [later, holds]

theorem filterMap_made {result : TransactionResult} {done : Nat} {update : Update}
    (updateEq : (updates result)[done]? = some update) (within : Prop) [Decidable within] :
    (if 0 < done ∧ within then [update] else []).filterMap Update.pushed =
      if within then update.pushed.toList else [] := by
  rcases updates_total updateEq with ⟨rfl, rfl⟩ | ⟨later, -⟩
  · simp [Update.pushed]
  · by_cases holds : within
    · cases pushed : update.pushed <;> simp [later, holds, pushed]
    · simp [holds]

theorem Attributed.log {index : Nat} (attributed : intervals.Attributed)
    (permitted : intervals.Unstraddled (.log index))
    (stepped : machine.step intervals (.log index) = some next) : next.Attributed := by
  rcases step_spec stepped with ⟨logged, advanced⟩
  rcases State.log_spec logged with ⟨call, update, callEq, updateEq, stateEq⟩
  have found : (intervals.calls.map (·.call))[index]? = some call := by
    rw [attributed.calls]
    exact callEq
  rw [List.getElem?_map] at found
  rcases Option.map_eq_some_iff.mp found with ⟨entry, entryEq, rfl⟩
  have within : entry.Counted → update.interval intervals.state = entry.interval :=
    fun counted => permitted entry entryEq counted update updateEq
  have callsEq : next.calls =
      intervals.calls.set index (entry.advance intervals.state) := by
    rw [advanced]
    exact List.modify_eq_set_of_getElem? entryEq _
  have madeEq : ∀ interval, next.made interval ~ intervals.made interval ++
      if 0 < entry.call.done ∧ update.interval intervals.state = interval then [update]
      else [] := by
    intro interval
    rw [made, callsEq]
    exact List.flatMap_set_perm entryEq (entry.made_advance updateEq within interval)
  constructor
  · rw [callsEq, stateEq, List.map_set, attributed.calls]
    rfl
  · intro cell interval
    have heldEq : next.state.held cell interval =
        (intervals.state.update update).held cell interval := by rw [stateEq]; rfl
    rw [heldEq, State.held_update, attributed.held, ((madeEq interval).map _).sum_eq,
      List.map_append, List.sum_append, sum_made updateEq, UInt64.ofNat_add]
  · intro interval
    have listedEq : next.state.listed interval =
        (intervals.state.update update).listed interval := by rw [stateEq]; rfl
    rw [listedEq, State.listed_update]
    apply List.Perm.trans _ ((madeEq interval).filterMap _).symm
    rw [List.filterMap_append, filterMap_made updateEq]
    exact (attributed.listed interval).append_right _
  · have lengthEq : next.state.snapshots.length = intervals.state.snapshots.length := by
      rw [stateEq]
      exact congrArg List.length (State.update_snapshots intervals.state update).1
    rw [callsEq, lengthEq]
    intro other member counted ended
    rcases List.mem_or_eq_of_mem_set member with old | rfl
    · exact attributed.completed other old counted ended
    · -- a call that is still counting belongs to an interval that has not ended
      have current : (entry.advance intervals.state).interval =
          update.interval intervals.state := by
        rcases entry with ⟨⟨result, done⟩, own⟩
        rcases done with _ | _ | done
        · exact absurd counted (by simp [IntervalCall.Counted, IntervalCall.advance])
        · simp only at updateEq
          simp only [IntervalCall.advance, updateEq]
        · exact (within (Nat.le_add_left 2 done)).symm
      have bound := intervals.state.length_le_interval update
      omega

theorem Attributed.snapshot (attributed : intervals.Attributed)
    (orderly : intervals.state.Orderly) (permitted : intervals.Unstraddled .snapshot)
    (stepped : machine.step intervals .snapshot = some next) : next.Attributed := by
  rcases step_spec stepped with ⟨taken, advanced⟩
  unfold State.step at taken
  cases building : intervals.state.building with
  | none => rw [building] at taken; cases taken
  | some call =>
      rcases call with ⟨swapped, _ | ⟨cell, remaining⟩⟩
      · rw [building] at taken
        have stateEq := (Option.some.inj taken).symm
        apply attributed.keep advanced
        · rw [stateEq]
        · rw [stateEq]
          exact State.held_finish building
        · rw [stateEq]
          exact State.listed_finish intervals.state swapped
        · intro entry member counted ended
          rw [stateEq, List.length_append, List.length_singleton] at ended
          rcases Nat.lt_succ_iff_lt_or_eq.mp ended with before | this
          · exact attributed.completed entry member counted before
          · exact permitted _ building rfl entry member counted this
      · rw [building] at taken
        have stateEq := (Option.some.inj taken).symm
        have fresh : cell ∉ remaining :=
          (List.nodup_cons.mp (orderly _ building).1).1
        apply attributed.keep advanced
        · rw [stateEq]
        · rw [stateEq]
          exact State.held_swap building fresh
        · rw [stateEq]
          exact fun _ => rfl
        · rw [stateEq]
          exact attributed.completed

theorem Attributed.beginLog {result : TransactionResult} (attributed : intervals.Attributed)
    (stepped : machine.step intervals (.beginLog result) = some next) : next.Attributed := by
  rcases step_spec stepped with ⟨begun, advanced⟩
  have stateEq := (Option.some.inj begun).symm
  have callsEq : next.calls = intervals.calls ++ [⟨⟨result, 0⟩, 0⟩] := advanced
  have madeEq : ∀ interval, next.made interval = intervals.made interval := by
    intro interval
    rw [made, callsEq, List.flatMap_append]
    simp [IntervalCall.made, made]
  constructor
  · rw [callsEq, stateEq, List.map_append, attributed.calls]
    rfl
  · intro cell interval
    rw [madeEq, stateEq]
    exact attributed.held cell interval
  · intro interval
    rw [madeEq, stateEq]
    exact attributed.listed interval
  · rw [callsEq, stateEq]
    intro entry member counted
    rcases List.mem_append.mp member with old | fresh
    · exact attributed.completed entry old counted
    · obtain rfl := List.mem_singleton.mp fresh
      exact absurd counted (by simp [IntervalCall.Counted])

theorem Attributed.step {event : Event} (attributed : intervals.Attributed)
    (orderly : intervals.state.Orderly) (permitted : intervals.Unstraddled event)
    (stepped : machine.step intervals event = some next) : next.Attributed := by
  rcases step_spec stepped with ⟨made, advanced⟩
  cases event with
  | log index => exact attributed.log permitted stepped
  | snapshot => exact attributed.snapshot orderly permitted stepped
  | beginLog result => exact attributed.beginLog stepped
  | beginSnapshot =>
      have held := State.held_beginSnapshot made
      have logCalls := (State.snapshot_keeps (Or.inl rfl) made).2.2
      unfold State.step at made
      cases building : intervals.state.building with
      | some call => rw [building] at made; cases made
      | none =>
          rw [building] at made
          have stateEq := (Option.some.inj made).symm
          apply attributed.keep advanced logCalls held
          · rw [stateEq]
            exact fun _ => rfl
          · rw [stateEq]
            exact attributed.completed
  | beginTotals =>
      have stateEq := (Option.some.inj made).symm
      apply attributed.keep advanced <;> rw [stateEq]
      · exact fun _ _ => rfl
      · exact fun _ => rfl
      · exact attributed.completed
  | loadTotal index =>
      rcases Option.bind_eq_some_iff.mp made with ⟨call, -, loaded⟩
      cases remaining : call.remaining with
      | nil => rw [remaining] at loaded; cases loaded
      | cons variant rest =>
          rw [remaining] at loaded
          have stateEq := (Option.some.inj loaded).symm
          apply attributed.keep advanced <;> rw [stateEq]
          · exact fun _ _ => rfl
          · exact fun _ => rfl
          · exact attributed.completed

/-- The interval of a call is only read, never acted upon. -/
theorem reachable_state {permits : Intervals → Event → Prop}
    (reachable : machine.ReachableBy permits intervals) :
    State.machine.Reachable intervals.state := by
  apply reachable.project Intervals.state
  · rintro _ rfl
    rfl
  · intro intervals event next _ stepped
    right
    exact ⟨event, trivial, (step_spec stepped).1⟩

/-- Every run of the tracker is one of these. -/
theorem exists_calls_of_reachable {state : State} (reachable : State.machine.Reachable state) :
    ∃ calls, machine.Reachable ⟨state, calls⟩ := by
  induction reachable with
  | start initial => exact ⟨[], .start (by rw [initial]; rfl)⟩
  | step _ _ stepped ih =>
      rcases ih with ⟨calls, before⟩
      exact ⟨_, before.step trivial (Option.map_eq_some_iff.mpr ⟨_, stepped, rfl⟩)⟩

theorem attributed_of_reachable (reachable : machine.ReachableBy Unstraddled intervals) :
    intervals.Attributed := by
  have known : ∀ intervals, machine.Reachable intervals → intervals.state.Orderly :=
    fun _ anyRun => State.orderly_of_reachable (reachable_state anyRun)
  apply reachable.invariant_of_known known
  · rintro _ rfl
    constructor
    · rfl
    · intro cell interval
      simp [State.held, State.new, made]
    · intro interval
      simp [State.listed, State.new, made]
    · simp
  · intro _ event _ orderly attributed permitted stepped
    exact attributed.step orderly permitted stepped

/-- A completed call has added what its result amounts to. -/
theorem amounts_made {entry : IntervalCall} {interval : Nat}
    (completed : entry.Counted → entry.interval = interval → entry.call.completed)
    (cell : Cell) : ((entry.made interval).map (Update.amount cell)).sum =
      amounts cell ((entry.made interval).filterMap Update.pushed) := by
  rcases entry with ⟨⟨result, done⟩, own⟩
  unfold IntervalCall.made
  by_cases same : own = interval
  · rw [if_pos same]
    by_cases counted : 2 ≤ done
    · have all : done = (updates result).length := of_decide_eq_true (completed counted same)
      have pushed : ((updates result).drop 1).filterMap Update.pushed = [result] := by
        cases result <;> rfl
      have added : (((updates result).drop 1).map (Update.amount cell)).sum =
          amountOf cell result := by
        cases result <;> simp [amountOf, updates, Update.amount]
      simp only
      rw [all, List.take_length, pushed, added]
      exact (Nat.add_zero _).symm
    · have nothing : ((updates result).take done).drop 1 = [] := by
        apply List.drop_eq_nil_of_le
        rw [List.length_take]
        omega
      simp only
      rw [nothing]
      rfl
  · rw [if_neg same]
    rfl

theorem Attributed.selfConsistent (attributed : intervals.Attributed)
    {statistics : IntervalStatistics} (member : statistics ∈ intervals.state.snapshots) :
    SelfConsistent statistics := by
  rcases List.mem_iff_getElem?.mp member with ⟨interval, found⟩
  have ended : interval < intervals.state.snapshots.length :=
    (List.getElem?_eq_some_iff.mp found).1
  have notCurrent := Nat.ne_of_lt ended
  have heldEq : ∀ cell, intervals.state.held cell interval = cellOf statistics cell := by
    intro cell
    have notHeld := Nat.ne_of_lt
      (Nat.lt_of_lt_of_le ended (intervals.state.length_le_intervalOf cell))
    simp [State.held, notHeld, notCurrent, found]
  have listedEq : intervals.state.listed interval = statistics.transactionResults := by
    simp [State.listed, notCurrent, found]
  apply selfConsistent_of_cells
  intro cell
  have sameResults : amounts cell statistics.transactionResults =
      amounts cell ((intervals.made interval).filterMap Update.pushed) := by
    rw [← listedEq]
    exact ((attributed.listed interval).map _).sum_eq
  rw [← heldEq, attributed.held, sameResults, made]
  congr 1
  have completed : ∀ entry ∈ intervals.calls, entry.Counted → entry.interval = interval →
      entry.call.completed := fun entry entryMem counted own =>
    attributed.completed entry entryMem counted (own ▸ ended)
  generalize intervals.calls = calls at completed ⊢
  induction calls with
  | nil => rfl
  | cons entry calls ih =>
      have first := amounts_made (completed entry List.mem_cons_self) cell
      have rest := ih fun other otherMem => completed other (List.mem_cons_of_mem _ otherMem)
      simp only [amounts] at first rest ⊢
      rw [List.flatMap_cons, List.map_append, List.sum_append, first, rest,
        List.filterMap_append, List.map_append, List.sum_append]

end Intervals

/-! ## Rows -/

/-- The average of a snapshot that counts its own results. -/
theorem SelfConsistent.averageResponseTime {statistics : IntervalStatistics}
    (consistent : SelfConsistent statistics)
    (fewResults : (statistics.transactionResults.countP fun result => !result.isDropped) < 2 ^ 64)
    (shortTimes : (statistics.transactionResults.filterMap (·.serviceMillis)).sum < 2 ^ 64) :
    statistics.averageResponseTime.toNat =
      (statistics.transactionResults.filterMap (·.serviceMillis)).sum /
        statistics.transactionResults.countP fun result => !result.isDropped := by
  have countEq : statistics.responseTimeCount.toNat =
      statistics.transactionResults.countP fun result => !result.isDropped := by
    rw [consistent.responseTimeCount]
    exact UInt64.toNat_ofNat_of_lt' fewResults
  have sumEq : statistics.responseTimeSum.toNat =
      (statistics.transactionResults.filterMap (·.serviceMillis)).sum := by
    rw [consistent.responseTimeSum]
    exact UInt64.toNat_ofNat_of_lt' shortTimes
  unfold IntervalStatistics.averageResponseTime
  by_cases none : statistics.responseTimeCount = 0
  · rw [if_pos none, ← countEq, none]
    simp
  · rw [if_neg none, UInt64.toNat_div, countEq, sumEq]

/-- How `transactions.csv` names the outcome of a result. -/
def Variant.outcome : Variant → String
  | .success => "success"
  | .failed => "failed"
  | .timeout => "timeout"
  | .dropped => "dropped"

/-- The ninth column of a transaction's row is its outcome. -/
theorem transactionRow_outcome (texts : Texts) (result : TransactionResult) :
    ∃ fields, TransactionCsvPersister.formatRow texts result = csvRow fields ∧
      fields[8]? = some (Variant.of result).outcome := by
  cases result <;>
    simp only [TransactionCsvPersister.formatRow, TransactionCsvPersister.sentRow] <;>
    exact ⟨_, rfl, rfl⟩

/-- The row of a report prints the numbers of rows that its results have. -/
theorem SelfConsistent.formatRow {report : IntervalReport}
    (consistent : SelfConsistent report.stats)
    (fewResults : report.results.length < 2 ^ 64)
    (shortTimes : (report.results.filterMap (·.serviceMillis)).sum < 2 ^ 64)
    (texts : Texts) (phase : Phase) :
    let rows := fun variant => report.results.countP fun result => Variant.of result = variant
    IntervalCsvPersister.formatRow texts report phase = csvRow
      [texts.seconds report.targetTime.duration.asSecsF64,
        toString report.loadLevel.toNat,
        toString (rows .success),
        toString (rows .failed),
        toString (rows .timeout),
        toString (rows .dropped),
        toString ((report.results.filterMap (·.serviceMillis)).sum /
          report.results.countP fun result => !result.isDropped),
        (report.finalBatchTime.map fun time => texts.seconds time.duration.asSecsF64).getD "",
        phase.text] := by
  have count : ∀ variant, (cellOf report.stats (.count variant)).toNat =
      report.results.countP fun result => Variant.of result = variant := by
    intro variant
    rw [consistent.counts]
    exact UInt64.toNat_ofNat_of_lt' (List.countP_le_length.trans_lt fewResults)
  have average := consistent.averageResponseTime (List.countP_le_length.trans_lt fewResults)
    shortTimes
  have success : report.stats.successfulTransactions.toNat = _ := count .success
  have failed : report.stats.failedTransactions.toNat = _ := count .failed
  have timeout : report.stats.timeoutTransactions.toNat = _ := count .timeout
  have dropped : report.stats.droppedTransactions.toNat = _ := count .dropped
  rw [IntervalCsvPersister.formatRow, average, success, failed, timeout, dropped]
  rfl

/-- If no call straddles the end of an interval, every snapshot counts the results it lists,
and so does every report that is merged from such snapshots: its row in `interval.csv` has
the numbers of the rows that it adds to `transactions.csv`. -/
theorem snapshots_agree_of_unstraddled {reports : List IntervalReport} {merged : IntervalReport}
    (taken : ∀ report ∈ reports, ∃ intervals,
      Intervals.machine.ReachableBy Intervals.Unstraddled intervals ∧
        report.stats ∈ intervals.state.snapshots)
    (isMerge : IntervalReport.IsMerge reports merged) :
    (∀ report ∈ reports, SelfConsistent report.stats) ∧
    SelfConsistent merged.stats ∧
    (merged.results.length < 2 ^ 64 →
      (merged.results.filterMap (·.serviceMillis)).sum < 2 ^ 64 →
        ∀ texts phase,
          let rows := fun variant =>
            merged.results.countP fun result => Variant.of result = variant
          IntervalCsvPersister.formatRow texts merged phase = csvRow
            [texts.seconds merged.targetTime.duration.asSecsF64,
              toString merged.loadLevel.toNat,
              toString (rows .success),
              toString (rows .failed),
              toString (rows .timeout),
              toString (rows .dropped),
              toString ((merged.results.filterMap (·.serviceMillis)).sum /
                merged.results.countP fun result => !result.isDropped),
              (merged.finalBatchTime.map fun time =>
                texts.seconds time.duration.asSecsF64).getD "",
              phase.text] ∧
          ∀ result ∈ merged.results, ∃ fields,
            TransactionCsvPersister.formatRow texts result = csvRow fields ∧
              fields[8]? = some (Variant.of result).outcome) := by
  have each : ∀ report ∈ reports, SelfConsistent report.stats := by
    intro report member
    rcases taken report member with ⟨intervals, reachable, inSnapshots⟩
    exact (Intervals.attributed_of_reachable reachable).selfConsistent inSnapshots
  have parts : ∀ part ∈ reports.map (·.stats), SelfConsistent part := by
    intro part member
    rcases List.mem_map.mp member with ⟨report, reportMem, rfl⟩
    exact each report reportMem
  have whole := SelfConsistent.merge isMerge.stats parts
  refine ⟨each, whole, ?_⟩
  intro fewResults shortTimes texts phase
  constructor
  · exact whole.formatRow fewResults shortTimes texts phase
  · exact fun result _ => transactionRow_outcome texts result

section TornSnapshot

/-- Two calls at a time, each of them ahead of the swaps. -/
def aheadOfSwaps : List Event :=
  [.beginLog State.droppedResult, .log 0, .beginSnapshot, .beginLog State.failedResult,
    .snapshot, .log 1, .log 1, .log 1, .snapshot, .log 1, .log 0, .snapshot, .snapshot,
    .log 0, .snapshot, .snapshot, .log 1, .snapshot]

theorem snapshots_agree_of_unstraddled_ahead :
    ∃ statistics : IntervalStatistics, statistics.failedTransactions = 1 ∧
      statistics.transactionResults = [State.droppedResult, State.failedResult] ∧
        SelfConsistent statistics := by
  rcases Intervals.machine.exists_reachableBy_of_exec
    (fun intervals event => of_decide_eq_true (p := intervals.Unstraddled event))
    (rfl : Intervals.machine.initial ⟨State.new, []⟩)
    aheadOfSwaps
    (fun intervals => intervals.state.snapshots.any fun statistics =>
      decide (statistics.failedTransactions = 1 ∧
        statistics.transactionResults = [State.droppedResult, State.failedResult]))
    (by decide) with ⟨intervals, reachable, checked⟩
  rcases List.any_eq_true.mp checked with ⟨statistics, member, decided⟩
  rcases of_decide_eq_true decided with ⟨failed, results⟩
  let report : IntervalReport := ⟨⟨0⟩, 0, statistics, none⟩
  have alone : IntervalReport.IsMerge [report] report := by
    constructor
    · simp
    · simp
    · constructor <;> simp [report]
    · rfl
  have agreed := snapshots_agree_of_unstraddled (fun other otherMem => by
    obtain rfl := List.mem_singleton.mp otherMem
    exact ⟨intervals, reachable, member⟩) alone
  exact ⟨statistics, failed, results, agreed.2.1⟩

/-- One failed transaction: a snapshot counts it and the next one lists it. -/
def tornSnapshot : List Event :=
  [.beginLog State.failedResult, .log 0, .log 0, .beginSnapshot] ++
    List.replicate 7 .snapshot ++ [.log 0, .log 0, .log 0, .beginSnapshot] ++
      List.replicate 7 .snapshot

theorem tornSnapshot_inconsistent :
    ∃ state, State.machine.Reachable state ∧ ∃ first second : IntervalStatistics,
      state.snapshots = [first, second] ∧
        first.failedTransactions = 1 ∧ first.transactionResults = [] ∧
          second.failedTransactions = 0 ∧ second.responseTimeCount = 1 ∧
            second.transactionResults = [State.failedResult] ∧
              ¬SelfConsistent first ∧ ¬SelfConsistent second := by
  rcases State.machine.exists_reachable_of_exec (rfl : State.machine.initial State.new)
    tornSnapshot
    (fun state => decide (state.snapshots = [⟨0, 1, 0, 0, 0, 0, []⟩,
      ⟨0, 0, 0, 0, State.failedResult.serviceMillis.elim 0 UInt64.ofNat, 1,
        [State.failedResult]⟩]))
    (by decide) with ⟨state, reachable, checked⟩
  have snapshots := of_decide_eq_true checked
  refine ⟨state, reachable, _, _, snapshots, rfl, rfl, rfl, rfl, rfl, ?_, ?_⟩
  · intro consistent
    exact absurd (consistent.counts .failed) (by decide)
  · intro consistent
    exact absurd (consistent.counts .failed) (by decide)

end TornSnapshot

end TrackerSteps

end CreoBench
