import CreoBench.Library.ListIndex
import CreoBench.Library.TransitionSystem
import CreoBench.Tracker
import Mathlib.Algebra.Order.BigOperators.Group.List

/-!
# The tracker, one atomic step at a time

A result is logged by up to five updates of different cells and a snapshot reads
seven of them, each indivisible but none of them together.  Any number of
results are logged at the same time, while snapshots are taken one after the
other and the totals are read by anyone.  Every cell is conserved on its own:
what was added to it is in the snapshots, in the one that is being built, or
still in the cell.
-/

namespace CreoBench

namespace TrackerSteps

/-- Which counter a result is counted by. -/
inductive Variant where
  | success | failed | timeout | dropped
  deriving DecidableEq

def Variant.all : List Variant := [.success, .failed, .timeout, .dropped]

def Variant.of : TransactionResult → Variant
  | .success .. => .success
  | .failed .. => .failed
  | .timeout .. => .timeout
  | .dropped .. => .dropped

/-- The atomic counters of the interval. -/
inductive Cell where
  | count (variant : Variant)
  | serviceTimeSum
  | serviceTimeCount
  deriving DecidableEq

/-- One indivisible step of logging a result. -/
inductive Update where
  | total (variant : Variant)
  | add (cell : Cell) (amount : UInt64)
  | push (result : TransactionResult)
  deriving DecidableEq

def serviceTimeUpdates : TransactionResult → List Update
  | .success _ _ serviceTime | .failed _ _ serviceTime _ | .timeout _ _ serviceTime _ =>
      [.add .serviceTimeSum serviceTime.asMillis, .add .serviceTimeCount 1]
  | .dropped .. => []

/-- The steps of `log_result`, in order. -/
def updates (result : TransactionResult) : List Update :=
  [.total (.of result), .add (.count (.of result)) 1] ++ serviceTimeUpdates result ++
    [.push result]

/-- A call of `log_result` that has made its first `done` steps. -/
structure LogCall where
  result : TransactionResult
  done : Nat
  deriving DecidableEq

def LogCall.completed (call : LogCall) : Bool := call.done = (updates call.result).length

/-- The order in which a snapshot swaps the counters. -/
def swapOrder : List Cell :=
  [.count .success, .count .failed, .count .timeout, .count .dropped, .serviceTimeSum,
    .serviceTimeCount]

/-- A call of `interval_statistics`: what it has swapped out and what is left. -/
structure Building where
  taken : Cell → UInt64
  remaining : List Cell

/-- A call of `totals`: what it has loaded and what is left.  `completed` is the number
of results of each kind that had been logged when it began. -/
structure TotalsCall where
  loaded : Variant → UInt64
  remaining : List Variant
  completed : Variant → Nat

/-- `TotalCounts::sum`. -/
def TotalsCall.sum (call : TotalsCall) : UInt64 :=
  call.loaded .success + call.loaded .failed + call.loaded .timeout + call.loaded .dropped

structure State where
  total : Variant → UInt64
  cells : Cell → UInt64
  results : List TransactionResult
  building : Option Building
  snapshots : List IntervalStatistics
  logCalls : List LogCall
  totalsCalls : List TotalsCall
  /-- All updates so far. -/
  performed : List Update

inductive Event where
  | beginLog (result : TransactionResult)
  | log (call : Nat)
  | beginSnapshot
  /-- The next swap, or the replacement of the results that ends a snapshot. -/
  | snapshot
  | beginTotals
  | loadTotal (call : Nat)

namespace State

def update (state : State) : Update → State
  | .total variant =>
      { state with total := Function.update state.total variant (state.total variant + 1) }
  | .add cell amount =>
      { state with cells := Function.update state.cells cell (state.cells cell + amount) }
  | .push result => { state with results := state.results ++ [result] }

/-- The results of a kind that have been logged completely. -/
def completed (state : State) (variant : Variant) : Nat :=
  (state.logCalls.map fun call =>
    if call.completed ∧ Variant.of call.result = variant then 1 else 0).sum

def statistics (taken : Cell → UInt64) (results : List TransactionResult) :
    IntervalStatistics where
  successfulTransactions := taken (.count .success)
  failedTransactions := taken (.count .failed)
  timeoutTransactions := taken (.count .timeout)
  droppedTransactions := taken (.count .dropped)
  responseTimeSum := taken .serviceTimeSum
  responseTimeCount := taken .serviceTimeCount
  transactionResults := results

def step (state : State) : Event → Option State
  | .beginLog result => some { state with logCalls := state.logCalls ++ [⟨result, 0⟩] }
  | .log index => do
      let call ← state.logCalls[index]?
      let update ← (updates call.result)[call.done]?
      return { state.update update with
        logCalls := state.logCalls.set index { call with done := call.done + 1 }
        performed := state.performed ++ [update] }
  | .beginSnapshot =>
      match state.building with
      | none => some { state with building := some ⟨fun _ => 0, swapOrder⟩ }
      | some _ => none
  | .snapshot =>
      match state.building with
      | none => none
      | some ⟨taken, cell :: remaining⟩ =>
          some { state with
            cells := Function.update state.cells cell 0
            building := some ⟨Function.update taken cell (state.cells cell), remaining⟩ }
      | some ⟨taken, []⟩ =>
          some { state with
            results := []
            building := none
            snapshots := state.snapshots ++ [statistics taken state.results] }
  | .beginTotals =>
      some { state with
        totalsCalls := state.totalsCalls ++ [⟨fun _ => 0, Variant.all, state.completed⟩] }
  | .loadTotal index => do
      let call ← state.totalsCalls[index]?
      match call.remaining with
      | [] => none
      | variant :: remaining =>
          return { state with
            totalsCalls := state.totalsCalls.set index
              { call with
                loaded := Function.update call.loaded variant (state.total variant)
                remaining } }

def new : State where
  total _ := 0
  cells _ := 0
  results := []
  building := none
  snapshots := []
  logCalls := []
  totalsCalls := []
  performed := []

def machine : Machine State Event where
  initial state := state = new
  step := step

end State

/-! ## Conservation -/

/-- What an update adds to a cell. -/
def Update.amount (cell : Cell) : Update → Nat
  | .add other amount => if other = cell then amount.toNat else 0
  | _ => 0

def Update.pushed : Update → Option TransactionResult
  | .push result => some result
  | _ => none

/-- The value of a cell in a snapshot. -/
def cellOf (statistics : IntervalStatistics) : Cell → UInt64
  | .count .success => statistics.successfulTransactions
  | .count .failed => statistics.failedTransactions
  | .count .timeout => statistics.timeoutTransactions
  | .count .dropped => statistics.droppedTransactions
  | .serviceTimeSum => statistics.responseTimeSum
  | .serviceTimeCount => statistics.responseTimeCount

theorem cellOf_statistics (taken : Cell → UInt64) (results : List TransactionResult)
    (cell : Cell) : cellOf (State.statistics taken results) cell = taken cell := by
  cases cell with
  | count variant => cases variant <;> rfl
  | serviceTimeSum => rfl
  | serviceTimeCount => rfl

namespace State

/-- Everything that was added to a cell. -/
def increments (state : State) (cell : Cell) : Nat :=
  (state.performed.map (Update.amount cell)).sum

def pushes (state : State) : List TransactionResult :=
  state.performed.filterMap Update.pushed

/-- What the snapshots have of a cell. -/
def reported (state : State) (cell : Cell) : Nat :=
  (state.snapshots.map fun statistics => (cellOf statistics cell).toNat).sum

/-- What a snapshot that is being built has swapped out of a cell. -/
def swapped (state : State) (cell : Cell) : Nat :=
  match state.building with
  | none => 0
  | some building => (building.taken cell).toNat

/-- Nothing is lost and nothing is counted twice. -/
structure Conserved (state : State) : Prop where
  cells : ∀ cell, state.increments cell < 2 ^ 64 →
    state.reported cell + state.swapped cell + (state.cells cell).toNat =
      state.increments cell
  results : state.snapshots.flatMap (·.transactionResults) ++ state.results = state.pushes

/-- A snapshot has taken nothing yet of the cells that are left. -/
def Orderly (state : State) : Prop :=
  ∀ building, state.building = some building →
    building.remaining.Nodup ∧ ∀ cell ∈ building.remaining, building.taken cell = 0

/-- An update adds its amount, if the cell does not overflow. -/
theorem toNat_update {state : State} {update : Update} {cell : Cell}
    (fits : (state.cells cell).toNat + update.amount cell < 2 ^ 64) :
    ((state.update update).cells cell).toNat =
      (state.cells cell).toNat + update.amount cell := by
  cases update with
  | total variant => rfl
  | push result => rfl
  | add other amount =>
      by_cases same : other = cell
      · subst same
        simp only [Update.amount, if_true] at fits ⊢
        simp only [State.update, Function.update_self, UInt64.toNat_add]
        exact Nat.mod_eq_of_lt fits
      · simp [State.update, Update.amount, same, Function.update_of_ne (Ne.symm same)]

theorem update_results (state : State) (update : Update) :
    (state.update update).results = state.results ++ update.pushed.toList := by
  cases update <;> simp [State.update, Update.pushed]

theorem update_snapshots (state : State) (update : Update) :
    (state.update update).snapshots = state.snapshots ∧
      (state.update update).building = state.building := by
  cases update <;> exact ⟨rfl, rfl⟩

/-- What a step of logging does, apart from the calls. -/
theorem log_spec {state next : State} {index : Nat}
    (stepped : state.step (.log index) = some next) :
    ∃ call update, state.logCalls[index]? = some call ∧
      (updates call.result)[call.done]? = some update ∧
        next = { state.update update with
          logCalls := state.logCalls.set index { call with done := call.done + 1 }
          performed := state.performed ++ [update] } := by
  rcases Option.bind_eq_some_iff.mp stepped with ⟨call, callEq, rest⟩
  rcases Option.bind_eq_some_iff.mp rest with ⟨update, updateEq, made⟩
  exact ⟨call, update, callEq, updateEq, (Option.some.inj made).symm⟩

theorem Conserved.log {state next : State} {index : Nat} (conserved : state.Conserved)
    (stepped : state.step (.log index) = some next) : next.Conserved := by
  rcases log_spec stepped with ⟨call, update, -, -, rfl⟩
  rcases update_snapshots state update with ⟨sameSnapshots, sameBuilding⟩
  constructor
  · intro cell small
    simp only [increments, reported, swapped, sameSnapshots, sameBuilding, List.map_append,
      List.map_singleton, List.sum_append, List.sum_singleton] at small ⊢
    have before := conserved.cells cell (Nat.lt_of_le_of_lt (Nat.le_add_right _ _) small)
    simp only [increments, reported, swapped] at before
    rw [toNat_update (by omega)]
    omega
  · simp only [sameSnapshots, update_results, pushes, List.filterMap_append]
    rw [← List.append_assoc, conserved.results]
    cases update <;> rfl

theorem Conserved.snapshot {state next : State} (conserved : state.Conserved)
    (orderly : state.Orderly) (stepped : state.step .snapshot = some next) :
    next.Conserved := by
  unfold State.step at stepped
  cases building : state.building with
  | none => rw [building] at stepped; cases stepped
  | some call =>
      rcases call with ⟨taken, _ | ⟨cell, remaining⟩⟩
      · rw [building] at stepped
        cases stepped
        constructor
        · intro cell small
          have before := conserved.cells cell small
          simp only [reported, swapped, building, increments, List.map_append, List.map_singleton,
            List.sum_append, List.sum_singleton, cellOf_statistics] at before ⊢
          omega
        · rw [List.flatMap_append, List.flatMap_singleton, List.append_nil]
          exact conserved.results
      · rw [building] at stepped
        cases stepped
        have untouched : taken cell = 0 :=
          (orderly _ building).2 cell List.mem_cons_self
        constructor
        · intro other small
          have before := conserved.cells other small
          simp only [reported, swapped, building, increments] at before ⊢
          by_cases same : other = cell
          · subst same
            simp only [Function.update_self, untouched, UInt64.toNat_zero] at before ⊢
            omega
          · simpa only [Function.update_of_ne same] using before
        · exact conserved.results

/-- The steps that neither log nor take a snapshot. -/
theorem Conserved.keep {state next : State} (conserved : state.Conserved)
    (cells : next.cells = state.cells) (results : next.results = state.results)
    (snapshots : next.snapshots = state.snapshots) (performed : next.performed = state.performed)
    (swapped : ∀ cell, next.swapped cell = state.swapped cell) : next.Conserved := by
  constructor
  · intro cell small
    rw [increments, performed] at small ⊢
    rw [reported, snapshots, swapped, cells]
    exact conserved.cells cell small
  · rw [snapshots, results, pushes, performed]
    exact conserved.results

theorem Conserved.step {state next : State} {event : Event} (conserved : state.Conserved)
    (orderly : state.Orderly) (stepped : state.step event = some next) : next.Conserved := by
  cases event with
  | log index => exact conserved.log stepped
  | snapshot => exact conserved.snapshot orderly stepped
  | beginLog result =>
      cases stepped
      exact conserved.keep rfl rfl rfl rfl fun _ => rfl
  | beginSnapshot =>
      unfold State.step at stepped
      cases building : state.building with
      | some call => rw [building] at stepped; cases stepped
      | none =>
          rw [building] at stepped
          cases stepped
          have untouched : ∀ cell, State.swapped
              { state with building := some ⟨fun _ => 0, swapOrder⟩ } cell =
                state.swapped cell := fun cell => by simp [swapped, building]
          exact conserved.keep rfl rfl rfl rfl untouched
  | beginTotals =>
      cases stepped
      exact conserved.keep rfl rfl rfl rfl fun _ => rfl
  | loadTotal index =>
      rcases Option.bind_eq_some_iff.mp stepped with ⟨call, -, loaded⟩
      cases remaining : call.remaining with
      | nil => rw [remaining] at loaded; cases loaded
      | cons variant rest =>
          rw [remaining] at loaded
          cases loaded
          exact conserved.keep rfl rfl rfl rfl fun _ => rfl

theorem Orderly.step {state next : State} {event : Event} (orderly : state.Orderly)
    (stepped : state.step event = some next) : next.Orderly := by
  cases event with
  | log index =>
      rcases log_spec stepped with ⟨call, update, -, -, rfl⟩
      intro building buildingEq
      exact orderly building ((update_snapshots state update).2 ▸ buildingEq)
  | snapshot =>
      unfold State.step at stepped
      cases building : state.building with
      | none => rw [building] at stepped; cases stepped
      | some call =>
          rcases call with ⟨taken, _ | ⟨cell, remaining⟩⟩
          · rw [building] at stepped
            cases stepped
            exact nofun
          · rw [building] at stepped
            cases stepped
            rcases orderly _ building with ⟨nodup, untouched⟩
            rcases List.nodup_cons.mp nodup with ⟨fresh, restNodup⟩
            rintro _ ⟨⟩
            refine ⟨restNodup, fun other member => ?_⟩
            have different : other ≠ cell := fun same => fresh (same ▸ member)
            simp only [Function.update_of_ne different]
            exact untouched other (List.mem_cons_of_mem _ member)
  | beginLog result =>
      cases stepped
      exact orderly
  | beginSnapshot =>
      unfold State.step at stepped
      cases building : state.building with
      | some call => rw [building] at stepped; cases stepped
      | none =>
          rw [building] at stepped
          cases stepped
          rintro _ ⟨⟩
          exact ⟨by decide, fun _ _ => rfl⟩
  | beginTotals =>
      cases stepped
      exact orderly
  | loadTotal index =>
      rcases Option.bind_eq_some_iff.mp stepped with ⟨call, -, loaded⟩
      cases remaining : call.remaining with
      | nil => rw [remaining] at loaded; cases loaded
      | cons variant rest =>
          rw [remaining] at loaded
          cases loaded
          exact orderly

/-! ## Totals -/

end State

/-- A call counts towards its total from its first step on. -/
def LogCall.started (variant : Variant) (call : LogCall) : Nat :=
  if 0 < call.done ∧ Variant.of call.result = variant then 1 else 0

theorem LogCall.completed_le_started (variant : Variant) (call : LogCall) :
    (if call.completed ∧ Variant.of call.result = variant then 1 else 0) ≤
      call.started variant := by
  unfold LogCall.started
  split
  · rename_i ended
    have nonempty : 0 < (updates call.result).length := by simp [updates]
    have doneEq : call.done = (updates call.result).length := of_decide_eq_true ended.1
    rw [if_pos ⟨doneEq ▸ nonempty, ended.2⟩]
  · exact Nat.zero_le _

/-- The total comes first and is added to once. -/
theorem updates_total {result : TransactionResult} {done : Nat} {update : Update}
    (updateEq : (updates result)[done]? = some update) :
    done = 0 ∧ update = .total (.of result) ∨
      0 < done ∧ ∀ variant, update ≠ .total variant := by
  cases done with
  | zero =>
      left
      exact ⟨rfl, (Option.some.inj updateEq).symm⟩
  | succ done =>
      right
      refine ⟨Nat.succ_pos done, ?_⟩
      have member := List.mem_of_getElem? (by simpa [updates] using updateEq)
      rintro variant rfl
      cases result <;> simp [serviceTimeUpdates] at member

namespace State

/-- The results of a kind of which the logging has made its first step. -/
def started (state : State) (variant : Variant) : Nat :=
  (state.logCalls.map (LogCall.started variant)).sum

theorem completed_le_started (state : State) (variant : Variant) :
    state.completed variant ≤ state.started variant :=
  List.sum_le_sum fun call _ => call.completed_le_started variant

end State

/-- All kinds together. -/
def Variant.sum (count : Variant → Nat) : Nat :=
  count .success + count .failed + count .timeout + count .dropped

theorem Variant.sum_le_sum {first second : Variant → Nat}
    (below : ∀ variant, first variant ≤ second variant) :
    Variant.sum first ≤ Variant.sum second := by
  have success := below .success
  have failed := below .failed
  have timeout := below .timeout
  have dropped := below .dropped
  unfold Variant.sum
  omega

theorem Variant.mem_all (variant : Variant) : variant ∈ Variant.all := by
  cases variant <;> decide

namespace State

theorem sum_started_le (state : State) :
    Variant.sum state.started ≤ state.logCalls.length := by
  unfold Variant.sum started
  induction state.logCalls with
  | nil => exact Nat.le_refl 0
  | cons call calls ih =>
      have once : LogCall.started .success call + LogCall.started .failed call +
          LogCall.started .timeout call + LogCall.started .dropped call ≤ 1 := by
        unfold LogCall.started
        cases Variant.of call.result <;> by_cases begun : 0 < call.done <;> simp [begun]
      simp only [List.map_cons, List.sum_cons, List.length_cons]
      omega

/-- A load of a total since a call of `totals` began. -/
def Loaded (state : State) (call : TotalsCall) (variant : Variant) : Prop :=
  ∃ count, call.loaded variant = UInt64.ofNat count ∧
    call.completed variant ≤ count ∧ count ≤ state.started variant

/-- The totals count the results of which the logging has begun. -/
structure Counted (state : State) : Prop where
  total : ∀ variant, state.total variant = UInt64.ofNat (state.started variant)
  completed : ∀ call ∈ state.totalsCalls, ∀ variant,
    call.completed variant ≤ state.started variant
  loaded : ∀ call ∈ state.totalsCalls, ∀ variant, variant ∉ call.remaining →
    state.Loaded call variant

theorem Loaded.mono {state next : State} {call : TotalsCall} {variant : Variant}
    (loaded : state.Loaded call variant)
    (grows : state.started variant ≤ next.started variant) : next.Loaded call variant := by
  rcases loaded with ⟨count, loadedEq, above, below⟩
  exact ⟨count, loadedEq, above, below.trans grows⟩

/-- Steps that leave the totals and those who read them alone. -/
theorem Counted.keep {state next : State} (counted : state.Counted)
    (total : next.total = state.total) (totalsCalls : next.totalsCalls = state.totalsCalls)
    (started : ∀ variant, next.started variant = state.started variant) : next.Counted := by
  constructor
  · intro variant
    rw [total, started]
    exact counted.total variant
  · rw [totalsCalls]
    intro call member variant
    rw [started]
    exact counted.completed call member variant
  · rw [totalsCalls]
    intro call member variant read
    exact (counted.loaded call member variant read).mono (started variant).ge

/-- A step of logging counts its result if it is the first one. -/
theorem started_log {state : State} {index : Nat} {call : LogCall} {update : Update}
    (callEq : state.logCalls[index]? = some call)
    (updateEq : (updates call.result)[call.done]? = some update) (variant : Variant) :
    State.started { state.update update with
        logCalls := state.logCalls.set index { call with done := call.done + 1 }
        performed := state.performed ++ [update] } variant =
      state.started variant + if update = .total variant then 1 else 0 := by
  have exchanged := List.sum_map_set callEq { call with done := call.done + 1 }
    (LogCall.started variant)
  simp only [started]
  rcases updates_total updateEq with ⟨first, rfl⟩ | ⟨later, noTotal⟩
  · by_cases same : Variant.of call.result = variant <;>
      simp [LogCall.started, first, same] at exchanged ⊢ <;> omega
  · rw [if_neg (noTotal variant)]
    by_cases same : Variant.of call.result = variant <;>
      simp [LogCall.started, later, same] at exchanged ⊢ <;> omega

theorem Counted.log {state next : State} {index : Nat} (counted : state.Counted)
    (stepped : state.step (.log index) = some next) : next.Counted := by
  rcases log_spec stepped with ⟨call, update, callEq, updateEq, rfl⟩
  have startedEq := started_log callEq updateEq
  have calls : (state.update update).totalsCalls = state.totalsCalls := by
    cases update <;> rfl
  constructor
  · intro variant
    rw [startedEq]
    have before := counted.total variant
    cases update with
    | add cell amount => simpa [State.update] using before
    | push result => simpa [State.update] using before
    | total other =>
        by_cases same : other = variant
        · subst same
          simp [State.update, before]
        · simpa [State.update, same, Function.update_of_ne (Ne.symm same)] using before
  · intro other member variant
    rw [startedEq]
    exact (counted.completed other (calls ▸ member) variant).trans (Nat.le_add_right _ _)
  · intro other member variant read
    apply (counted.loaded other (calls ▸ member) variant read).mono
    rw [startedEq]
    exact Nat.le_add_right _ _

theorem Counted.loadTotal {state next : State} {index : Nat} (counted : state.Counted)
    (stepped : state.step (.loadTotal index) = some next) : next.Counted := by
  rcases Option.bind_eq_some_iff.mp stepped with ⟨call, callEq, made⟩
  have member := List.mem_of_getElem? callEq
  cases remaining : call.remaining with
  | nil => rw [remaining] at made; cases made
  | cons loading rest =>
      rw [remaining] at made
      cases made
      constructor
      · exact counted.total
      · intro other otherMember variant
        rcases List.mem_or_eq_of_mem_set otherMember with old | rfl
        · exact counted.completed other old variant
        · exact counted.completed call member variant
      · intro other otherMember variant read
        rcases List.mem_or_eq_of_mem_set otherMember with old | rfl
        · exact counted.loaded other old variant read
        · by_cases same : variant = loading
          · subst same
            refine ⟨state.started variant, ?_, counted.completed call member variant,
              Nat.le_refl _⟩
            exact (Function.update_self variant _ _).trans (counted.total variant)
          · have before := counted.loaded call member variant
              (by rw [remaining]; simp [same, read])
            rcases before with ⟨count, loadedEq, above, below⟩
            exact ⟨count, (Function.update_of_ne same _ _).trans loadedEq, above, below⟩

/-- Neither taking a snapshot nor finishing it touches what `totals` reads. -/
theorem snapshot_keeps {state next : State} {event : Event}
    (isSnapshot : event = .beginSnapshot ∨ event = .snapshot)
    (stepped : state.step event = some next) :
    next.total = state.total ∧ next.totalsCalls = state.totalsCalls ∧
      next.logCalls = state.logCalls := by
  rcases isSnapshot with rfl | rfl <;> unfold State.step at stepped
  · cases building : state.building <;> rw [building] at stepped <;> cases stepped
    exact ⟨rfl, rfl, rfl⟩
  · cases building : state.building with
    | none => rw [building] at stepped; cases stepped
    | some call =>
        rcases call with ⟨taken, _ | ⟨cell, remaining⟩⟩ <;> rw [building] at stepped <;>
          cases stepped <;> exact ⟨rfl, rfl, rfl⟩

theorem Counted.step {state next : State} {event : Event} (counted : state.Counted)
    (stepped : state.step event = some next) : next.Counted := by
  cases event with
  | log index => exact counted.log stepped
  | loadTotal index => exact counted.loadTotal stepped
  | beginLog result =>
      cases stepped
      have started : ∀ variant, State.started
          { state with logCalls := state.logCalls ++ [⟨result, 0⟩] } variant =
            state.started variant := fun variant => by simp [State.started, LogCall.started]
      exact counted.keep rfl rfl started
  | beginSnapshot =>
      rcases snapshot_keeps (Or.inl rfl) stepped with ⟨total, calls, logCalls⟩
      exact counted.keep total calls fun _ => by rw [State.started, logCalls, State.started]
  | snapshot =>
      rcases snapshot_keeps (Or.inr rfl) stepped with ⟨total, calls, logCalls⟩
      exact counted.keep total calls fun _ => by rw [State.started, logCalls, State.started]
  | beginTotals =>
      cases stepped
      constructor
      · exact counted.total
      · intro call member variant
        rcases List.mem_append.mp member with old | fresh
        · exact counted.completed call old variant
        · obtain rfl := List.mem_singleton.mp fresh
          exact state.completed_le_started variant
      · intro call member variant read
        rcases List.mem_append.mp member with old | fresh
        · exact counted.loaded call old variant read
        · obtain rfl := List.mem_singleton.mp fresh
          exact absurd variant.mem_all read

theorem toNat_sum {values : Variant → UInt64} {counts : Variant → Nat}
    (valuesEq : ∀ variant, values variant = UInt64.ofNat (counts variant))
    (small : Variant.sum counts < 2 ^ 64) :
    (values .success + values .failed + values .timeout + values .dropped).toNat =
      Variant.sum counts := by
  have sumEq : values .success + values .failed + values .timeout + values .dropped =
      UInt64.ofNat (Variant.sum counts) := by
    simp only [valuesEq, Variant.sum, UInt64.ofNat_add]
  rw [sumEq]
  exact UInt64.toNat_ofNat_of_lt' small

/-- `totals().sum()`, if nothing else happens in between. -/
def totalsSum (state : State) : UInt64 :=
  state.total .success + state.total .failed + state.total .timeout + state.total .dropped

theorem Counted.totalsSum_between {state : State} (counted : state.Counted)
    (small : state.logCalls.length < 2 ^ 64) :
    Variant.sum state.completed ≤ state.totalsSum.toNat ∧
      state.totalsSum.toNat ≤ state.logCalls.length := by
  have below := state.sum_started_le
  rw [totalsSum, toNat_sum counted.total (below.trans_lt small)]
  exact ⟨Variant.sum_le_sum state.completed_le_started, below⟩

theorem Counted.sum_between {state : State} (counted : state.Counted)
    (small : state.logCalls.length < 2 ^ 64) {call : TotalsCall}
    (member : call ∈ state.totalsCalls) (finished : call.remaining = []) :
    Variant.sum call.completed ≤ call.sum.toNat ∧
      call.sum.toNat ≤ state.logCalls.length := by
  have loaded : ∀ variant, state.Loaded call variant := fun variant =>
    counted.loaded call member variant (by rw [finished]; exact List.not_mem_nil)
  choose counts countsEq above below using loaded
  have bounded := (Variant.sum_le_sum below).trans state.sum_started_le
  rw [TotalsCall.sum, toNat_sum countsEq (bounded.trans_lt small)]
  exact ⟨Variant.sum_le_sum above, bounded⟩

/-! ## Every run -/

theorem orderly_of_reachable {state : State} (reachable : machine.Reachable state) :
    state.Orderly := by
  apply reachable.invariant
  · rintro _ rfl
    exact nofun
  · intro _ _ _ orderly _ stepped
    exact orderly.step stepped

theorem increments_conserved {state : State} (reachable : machine.Reachable state) :
    state.Conserved := by
  apply reachable.invariant_of_known fun _ => orderly_of_reachable
  · rintro _ rfl
    exact ⟨fun _ _ => rfl, rfl⟩
  · intro _ _ _ orderly conserved _ stepped
    exact conserved.step orderly stepped

theorem counted_of_reachable {state : State} (reachable : machine.Reachable state) :
    state.Counted := by
  apply reachable.invariant
  · rintro _ rfl
    exact ⟨fun _ => rfl, nofun, nofun⟩
  · intro _ _ _ counted _ stepped
    exact counted.step stepped

/-- However the calls interleave, every increment and every result is in exactly one
snapshot or still pending, and the totals lie between the finished and the begun calls. -/
theorem tracker_loses_nothing_of_reachable {state : State}
    (reachable : machine.Reachable state) :
    (∀ cell, state.increments cell < 2 ^ 64 →
      state.reported cell + state.swapped cell + (state.cells cell).toNat =
        state.increments cell) ∧
    state.snapshots.flatMap (·.transactionResults) ++ state.results = state.pushes ∧
    (∀ event next, event = .beginSnapshot ∨ event = .snapshot →
      state.step event = some next → next.total = state.total) ∧
    (state.logCalls.length < 2 ^ 64 →
      Variant.sum state.completed ≤ state.totalsSum.toNat ∧
        state.totalsSum.toNat ≤ state.logCalls.length ∧
        ∀ call ∈ state.totalsCalls, call.remaining = [] →
          Variant.sum call.completed ≤ call.sum.toNat ∧
            call.sum.toNat ≤ state.logCalls.length) := by
  have conserved := increments_conserved reachable
  have counted := counted_of_reachable reachable
  refine ⟨conserved.cells, conserved.results, ?_, ?_⟩
  · intro event next isSnapshot stepped
    exact (snapshot_keeps isSnapshot stepped).1
  · intro small
    rcases counted.totalsSum_between small with ⟨above, below⟩
    exact ⟨above, below, fun call member finished => counted.sum_between small member finished⟩

/-! A result is counted between two swaps of a snapshot and pushed after it. -/

section StraddledSnapshot

def droppedResult : TransactionResult :=
  .dropped ⟨none, ⟨1⟩, ⟨3⟩, ⟨2⟩⟩ ⟨5⟩ .noVirtualUser

def failedResult : TransactionResult :=
  .failed ⟨⟨0⟩, ⟨0⟩, ⟨1⟩, ⟨4⟩, ⟨4⟩, ⟨4⟩⟩ ⟨9⟩ ⟨7⟩ (.status 500)

def straddledSnapshot : List Event :=
  [.beginLog droppedResult, .log 0, .beginSnapshot, .beginTotals, .beginLog failedResult,
    .snapshot, .log 1, .snapshot, .log 1, .log 0, .loadTotal 0, .snapshot, .snapshot,
    .loadTotal 0, .log 1, .snapshot, .log 1, .snapshot, .snapshot, .log 1, .loadTotal 0,
    .loadTotal 0]

theorem tracker_loses_nothing_of_reachable_straddled :
    ∃ state, machine.Reachable state ∧ state.snapshots.length = 1 ∧
      state.results = [failedResult] ∧ state.cells (.count .failed) = 1 ∧
      state.increments (.count .failed) = 1 ∧
      state.reported (.count .failed) + state.swapped (.count .failed) +
        (state.cells (.count .failed)).toNat = state.increments (.count .failed) ∧
      Variant.sum state.completed ≤ state.totalsSum.toNat := by
  rcases machine.exists_reachable_of_exec (rfl : machine.initial new) straddledSnapshot
    (fun state => decide (state.snapshots.length = 1 ∧ state.results = [failedResult] ∧
      state.cells (.count .failed) = 1 ∧ state.increments (.count .failed) = 1 ∧
      state.logCalls.length = 2))
    (by decide) with ⟨state, reachable, checked⟩
  rcases of_decide_eq_true checked with ⟨one, pending, cell, increments, two⟩
  rcases tracker_loses_nothing_of_reachable reachable with ⟨cells, -, -, totals⟩
  refine ⟨state, reachable, one, pending, cell, increments, ?_, ?_⟩
  · exact cells (.count .failed) (by rw [increments]; decide)
  · exact (totals (by rw [two]; decide)).1

end StraddledSnapshot

end State

end TrackerSteps

end CreoBench
