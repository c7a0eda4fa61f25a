import CreoBench.Library.ListIndex
import CreoBench.Wire
import Mathlib.Data.List.Induction

/-!
# Phases and dropped transactions

The orchestrator tells the phases apart by counting the merged reports.  The
writer task and the summary of the dropped transactions each count for
themselves.
-/

namespace CreoBench

inductive Phase where
  | warmup
  | pause
  | load
  deriving DecidableEq

structure PhaseClassifier where
  warmupDuration : Nat
  warmupPause : Nat
  count : Nat
  deriving DecidableEq

namespace PhaseClassifier

def new (warmupDuration warmupPause : UInt32) : PhaseClassifier where
  warmupDuration := warmupDuration.toNat
  warmupPause := warmupPause.toNat
  count := 0

/-- The phase of the next report. -/
def phase (classifier : PhaseClassifier) : Phase :=
  if classifier.count < classifier.warmupDuration then .warmup
  else if classifier.count < classifier.warmupDuration + classifier.warmupPause then .pause
  else .load

def classify (classifier : PhaseClassifier) : Phase × PhaseClassifier :=
  (classifier.phase, { classifier with count := classifier.count + 1 })

end PhaseClassifier

/-- The phase of the report number `index`. -/
def phaseOf (warmupDuration warmupPause : UInt32) (index : Nat) : Phase :=
  { PhaseClassifier.new warmupDuration warmupPause with count := index }.phase

structure PhaseDrops where
  transactions : Nat
  noVirtualUser : Nat
  late : Nat
  error : Nat
  deriving DecidableEq

namespace PhaseDrops

def zero : PhaseDrops := ⟨0, 0, 0, 0⟩

def total (drops : PhaseDrops) : Nat :=
  drops.noVirtualUser + drops.late + drops.error

def recordCode (drops : PhaseDrops) : DroppedCode → PhaseDrops
  | .noVirtualUser => { drops with noVirtualUser := drops.noVirtualUser + 1 }
  | .late => { drops with late := drops.late + 1 }
  | .error _ => { drops with error := drops.error + 1 }

def recordResult (drops : PhaseDrops) : TransactionResult → PhaseDrops
  | .dropped _ _ code => drops.recordCode code
  | _ => drops

/-- The part of `DropSummary::record` after the phase is known. -/
def record (drops : PhaseDrops) (results : List TransactionResult) : PhaseDrops :=
  results.foldl recordResult { drops with transactions := drops.transactions + results.length }

@[simp]
theorem total_recordCode (drops : PhaseDrops) (code : DroppedCode) :
    (drops.recordCode code).total = drops.total + 1 := by
  cases code <;> simp only [recordCode, total] <;> omega

/-- Every dropped transaction is counted once. -/
theorem total_record (drops : PhaseDrops) (results : List TransactionResult) :
    (drops.record results).total = drops.total + results.countP (·.isDropped) := by
  have counted : ∀ start : PhaseDrops,
      (results.foldl recordResult start).total =
        start.total + results.countP (·.isDropped) := by
    induction results with
    | nil => exact fun _ => rfl
    | cons result results ih =>
        intro start
        rw [List.foldl_cons, ih]
        cases result with
        | dropped metadata responseTime code =>
            simp only [recordResult, total_recordCode, TransactionResult.isDropped,
              List.countP_cons_of_pos]
            omega
        | success metadata responseTime serviceTime => rfl
        | failed metadata responseTime serviceTime code => rfl
        | timeout metadata responseTime serviceTime code => rfl
  exact counted _

end PhaseDrops

/-- The report on dropped transactions in `run.json`. -/
structure DropReport where
  load : PhaseDrops
  warmup : PhaseDrops
  deriving DecidableEq

structure DropSummary where
  classifier : PhaseClassifier
  load : PhaseDrops
  warmup : PhaseDrops
  deriving DecidableEq

namespace DropSummary

def new (warmupDuration warmupPause : UInt32) : DropSummary where
  classifier := .new warmupDuration warmupPause
  load := .zero
  warmup := .zero

def record (summary : DropSummary) (report : IntervalReport) : DropSummary :=
  let (phase, classifier) := summary.classifier.classify
  match phase with
  | .load => { summary with classifier, load := summary.load.record report.results }
  | .warmup | .pause =>
      { summary with classifier, warmup := summary.warmup.record report.results }

def isValid (summary : DropSummary) : Bool := summary.load.total = 0

def report (summary : DropSummary) : Option DropReport :=
  if 0 < summary.load.total + summary.warmup.total then some ⟨summary.load, summary.warmup⟩
  else none

/-- The summary of a run that has merged these reports. -/
def recordAll (warmupDuration warmupPause : UInt32) (reports : List IntervalReport) :
    DropSummary :=
  reports.foldl record (new warmupDuration warmupPause)

theorem recordAll_append (warmupDuration warmupPause : UInt32)
    (reports : List IntervalReport) (report : IntervalReport) :
    recordAll warmupDuration warmupPause (reports ++ [report]) =
      (recordAll warmupDuration warmupPause reports).record report := by
  simp [recordAll]

theorem classifier_recordAll (warmupDuration warmupPause : UInt32)
    (reports : List IntervalReport) :
    (recordAll warmupDuration warmupPause reports).classifier =
      { PhaseClassifier.new warmupDuration warmupPause with count := reports.length } := by
  induction reports using List.reverseRecOn with
  | nil => rfl
  | append_singleton reports report ih =>
      rw [recordAll_append, record, ih]
      simp only [PhaseClassifier.classify]
      split <;> simp

/-- A report of the load phase is counted in full. -/
theorem total_load_record (warmupDuration warmupPause : UInt32)
    (reports : List IntervalReport) (report : IntervalReport) :
    (recordAll warmupDuration warmupPause (reports ++ [report])).load.total =
      (recordAll warmupDuration warmupPause reports).load.total +
        if phaseOf warmupDuration warmupPause reports.length = .load then
          report.results.countP (·.isDropped)
        else 0 := by
  rw [recordAll_append, record, classifier_recordAll]
  simp only [PhaseClassifier.classify, phaseOf]
  split <;> rename_i phaseEq <;> simp [phaseEq, PhaseDrops.total_record]

/-- The run is valid unless a report of the load phase has a dropped transaction. -/
theorem isValid_recordAll {warmupDuration warmupPause : UInt32}
    {reports : List IntervalReport} :
    (recordAll warmupDuration warmupPause reports).isValid = false ↔
      ∃ index report, reports[index]? = some report ∧
        phaseOf warmupDuration warmupPause index = .load ∧
          ∃ result ∈ report.results, result.isDropped := by
  have counted : 0 < (recordAll warmupDuration warmupPause reports).load.total ↔
      ∃ index report, reports[index]? = some report ∧
        phaseOf warmupDuration warmupPause index = .load ∧
          ∃ result ∈ report.results, result.isDropped := by
    induction reports using List.reverseRecOn with
    | nil => simp [recordAll, new, PhaseDrops.zero, PhaseDrops.total]
    | append_singleton reports last ih =>
        rw [total_load_record, Nat.add_pos_iff_pos_or_pos, ih]
        constructor
        · rintro (⟨index, report, found, dropped⟩ | positive)
          · exact ⟨index, report, List.getElem?_concat_eq_some.mpr (.inl found), dropped⟩
          · split_ifs at positive with phaseEq
            · exact ⟨reports.length, last, List.getElem?_concat_length, phaseEq,
                List.countP_pos_iff.mp positive⟩
            · exact absurd positive (Nat.lt_irrefl 0)
        · rintro ⟨index, report, found, phaseEq, dropped⟩
          rcases List.getElem?_concat_eq_some.mp found with old | ⟨rfl, rfl⟩
          · exact .inl ⟨index, report, old, phaseEq, dropped⟩
          · right
            rw [if_pos phaseEq]
            exact List.countP_pos_iff.mpr dropped
  rw [← counted, isValid, decide_eq_false_iff_not, Nat.pos_iff_ne_zero]

end DropSummary

end CreoBench
