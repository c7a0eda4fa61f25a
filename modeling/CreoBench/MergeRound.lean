import CreoBench.Collect
import Mathlib.Algebra.BigOperators.Group.List.Basic
import Mathlib.Data.UInt

/-!
# What a merged report says

A merged report stands for the reports of one round.  Which report it is does not
depend on the order of the generators, except for the order of the results.
-/

open scoped List

namespace CreoBench

/-- `total` is the sum of `parts`, its results in any order. -/
structure IntervalStatistics.IsSum (parts : List IntervalStatistics)
    (total : IntervalStatistics) : Prop where
  successful : total.successfulTransactions = (parts.map (·.successfulTransactions)).sum
  failed : total.failedTransactions = (parts.map (·.failedTransactions)).sum
  timeout : total.timeoutTransactions = (parts.map (·.timeoutTransactions)).sum
  dropped : total.droppedTransactions = (parts.map (·.droppedTransactions)).sum
  responseTimeSum : total.responseTimeSum = (parts.map (·.responseTimeSum)).sum
  responseTimeCount : total.responseTimeCount = (parts.map (·.responseTimeCount)).sum
  results : total.transactionResults ~ parts.flatMap (·.transactionResults)

/-- `merged` stands for the reports of one round. -/
structure IntervalReport.IsMerge (reports : List IntervalReport) (merged : IntervalReport) :
    Prop where
  targetTime : ∀ report ∈ reports, report.targetTime = merged.targetTime
  loadLevel : merged.loadLevel = (reports.map (·.loadLevel)).sum
  stats : IntervalStatistics.IsSum (reports.map (·.stats)) merged.stats
  finalBatchTime : merged.finalBatchTime = latest (reports.filterMap (·.finalBatchTime))

namespace IntervalStatistics

/-- A counter that `add` adds up is added up by `sum`. -/
private theorem sum_counter {counter : IntervalStatistics → UInt64}
    (empty : counter default = 0)
    (added : ∀ first second, counter (first.add second) = counter first + counter second)
    (parts : List IntervalStatistics) : counter (sum parts) = (parts.map counter).sum := by
  have fromInitial : ∀ initial, counter (parts.foldl add initial) =
      counter initial + (parts.map counter).sum := by
    induction parts with
    | nil => simp
    | cons head tail ih =>
        intro initial
        rw [List.foldl_cons, ih, added, List.map_cons, List.sum_cons, UInt64.add_assoc]
  rw [sum, fromInitial, empty, UInt64.zero_add]

theorem sum_isSum (parts : List IntervalStatistics) : IsSum parts (sum parts) where
  successful := sum_counter rfl (fun _ _ => rfl) parts
  failed := sum_counter rfl (fun _ _ => rfl) parts
  timeout := sum_counter rfl (fun _ _ => rfl) parts
  dropped := sum_counter rfl (fun _ _ => rfl) parts
  responseTimeSum := sum_counter rfl (fun _ _ => rfl) parts
  responseTimeCount := sum_counter rfl (fun _ _ => rfl) parts
  results := by rw [sum_transactionResults]

theorem IsSum.perm {parts parts' : List IntervalStatistics} {total : IntervalStatistics}
    (isSum : IsSum parts total) (reordered : parts ~ parts') : IsSum parts' total where
  successful := isSum.successful.trans (reordered.map _).sum_eq
  failed := isSum.failed.trans (reordered.map _).sum_eq
  timeout := isSum.timeout.trans (reordered.map _).sum_eq
  dropped := isSum.dropped.trans (reordered.map _).sum_eq
  responseTimeSum := isSum.responseTimeSum.trans (reordered.map _).sum_eq
  responseTimeCount := isSum.responseTimeCount.trans (reordered.map _).sum_eq
  results := isSum.results.trans (reordered.flatMap_right _)

end IntervalStatistics

/-- The latest time does not depend on the order. -/
theorem latest_perm {times times' : List RelativeLoadTestTime} (reordered : times ~ times') :
    latest times = latest times' := by
  have sameMax : (times.map (·.duration)).max? = (times'.map (·.duration)).max? := by
    have durations := reordered.map (·.duration)
    cases maxEq : (times'.map (·.duration)).max? with
    | none =>
        rw [List.max?_eq_none_iff] at maxEq ⊢
        rw [maxEq] at durations
        exact List.perm_nil.mp durations
    | some greatest =>
        rw [List.max?_eq_some_iff] at maxEq ⊢
        exact ⟨durations.mem_iff.mpr maxEq.1,
          fun other member => maxEq.2 other (durations.mem_iff.mp member)⟩
  rw [latest, latest, sameMax]

namespace IntervalReport

theorem IsMerge.perm {reports reports' : List IntervalReport} {merged : IntervalReport}
    (isMerge : IsMerge reports merged) (reordered : reports ~ reports') :
    IsMerge reports' merged where
  targetTime report member := isMerge.targetTime report (reordered.mem_iff.mpr member)
  loadLevel := isMerge.loadLevel.trans (reordered.map _).sum_eq
  stats := isMerge.stats.perm (reordered.map _)
  finalBatchTime := isMerge.finalBatchTime.trans (latest_perm (reordered.filterMap _))

/-- The load levels add up as natural numbers if their sum fits into 32 bits. -/
theorem IsMerge.loadLevel_toNat {reports : List IntervalReport} {merged : IntervalReport}
    (isMerge : IsMerge reports merged)
    (fits : (reports.map (·.loadLevel.toNat)).sum < 2 ^ 32) :
    merged.loadLevel.toNat = (reports.map (·.loadLevel.toNat)).sum := by
  have modular : ∀ reports : List IntervalReport,
      (reports.map IntervalReport.loadLevel).sum.toNat =
        (reports.map (·.loadLevel.toNat)).sum % 2 ^ 32 := by
    intro reports
    induction reports with
    | nil => rfl
    | cons head tail ih =>
        rw [List.map_cons, List.sum_cons, UInt32.toNat_add, ih, List.map_cons, List.sum_cons,
          Nat.add_mod_mod]
  rw [isMerge.loadLevel, modular, Nat.mod_eq_of_lt fits]

theorem IsMerge.results {reports : List IntervalReport} {merged : IntervalReport}
    (isMerge : IsMerge reports merged) : merged.results ~ reports.flatMap (·.results) := by
  have results := isMerge.stats.results
  rw [List.flatMap_map] at results
  exact results

end IntervalReport

/-- Only a round without reports yields none. -/
theorem mergeRound_eq_ok_none {handles : List GeneratorHandle} {reports : List IntervalReport}
    (merged : mergeRound handles reports = .ok none) : reports = [] := by
  cases reports with
  | nil => rfl
  | cons first rest =>
      simp only [mergeRound] at merged
      split at merged <;> cases merged

/-- The outcome of a round in which all target times agree. -/
theorem mergeRound_agree (handles : List GeneratorHandle) {reports : List IntervalReport}
    (nonempty : reports ≠ [])
    (agree : ∀ first ∈ reports, ∀ second ∈ reports,
      first.targetTime = second.targetTime) :
    ∃ merged, mergeRound handles reports = .ok (some merged) ∧
      IntervalReport.IsMerge reports merged := by
  obtain ⟨first, rest, rfl⟩ := List.exists_cons_of_ne_nil nonempty
  have noneDiffers : ((first :: rest).zip handles).find?
      (fun pair => pair.1.targetTime ≠ first.targetTime) = none := by
    rw [List.find?_eq_none]
    intro pair member
    have inReports := (List.of_mem_zip member).1
    simp [agree pair.1 inReports first List.mem_cons_self]
  refine ⟨{
      targetTime := first.targetTime
      loadLevel := ((first :: rest).map (·.loadLevel)).sum
      stats := .sum ((first :: rest).map (·.stats))
      finalBatchTime := latest ((first :: rest).filterMap (·.finalBatchTime)) }, ?_, ?_⟩
  · simp only [mergeRound, noneDiffers]
  · exact ⟨fun report member => agree report member first List.mem_cons_self, rfl,
      IntervalStatistics.sum_isSum _, rfl⟩

/-- What the report of a round says. -/
theorem isMerge_of_mergeRound {handles : List GeneratorHandle} {reports : List IntervalReport}
    {merged : IntervalReport} (paired : reports.length ≤ handles.length)
    (mergedEq : mergeRound handles reports = .ok (some merged)) :
    IntervalReport.IsMerge reports merged := by
  have nonempty : reports ≠ [] := by
    rintro rfl
    cases mergedEq
  have agree : ∀ first ∈ reports, ∀ second ∈ reports, first.targetTime = second.targetTime := by
    obtain ⟨head, tail, rfl⟩ := List.exists_cons_of_ne_nil nonempty
    simp only [mergeRound] at mergedEq
    split at mergedEq
    · cases mergedEq
    · rename_i noneDiffers
      have sameAsHead : ∀ report ∈ head :: tail, report.targetTime = head.targetTime := by
        intro report member
        rw [← List.map_fst_zip paired] at member
        obtain ⟨pair, inZip, rfl⟩ := List.mem_map.mp member
        simpa using List.find?_eq_none.mp noneDiffers pair inZip
      intro first firstMem second secondMem
      rw [sameAsHead first firstMem, sameAsHead second secondMem]
  obtain ⟨merged', mergedEq', isMerge⟩ := mergeRound_agree handles nonempty agree
  rw [mergedEq] at mergedEq'
  cases mergedEq'
  exact isMerge

/-- A round only fails because of two reports with different target times. -/
theorem differ_of_mergeRound {handles : List GeneratorHandle} {reports : List IntervalReport}
    {error : CollectError} (failed : mergeRound handles reports = .error error) :
    ∃ first ∈ reports, ∃ second ∈ reports, first.targetTime ≠ second.targetTime := by
  by_contra differ
  have nonempty : reports ≠ [] := by
    rintro rfl
    cases failed
  obtain ⟨merged, mergedEq, -⟩ := mergeRound_agree handles nonempty fun first firstMem second
    secondMem => by
      by_contra other
      exact differ ⟨first, firstMem, second, secondMem, other⟩
  rw [failed] at mergedEq
  cases mergedEq

/-- Reports and the handles they were taken from stand next to each other. -/
theorem mem_zip_taken {kept : List GeneratorHandle} {pair : IntervalReport × GeneratorHandle}
    (all : ∀ handle ∈ kept, handle.headReport.isSome)
    (member : pair ∈ (kept.filterMap (·.headReport)).zip (kept.map (·.taken))) :
    ∃ handle ∈ kept, handle.headReport = some pair.1 ∧ handle.taken = pair.2 := by
  induction kept with
  | nil => simp at member
  | cons handle rest ih =>
      obtain ⟨report, headEq⟩ := Option.isSome_iff_exists.mp (all handle List.mem_cons_self)
      simp only [List.filterMap_cons, headEq, List.map_cons, List.zip_cons_cons,
        List.mem_cons] at member
      rcases member with rfl | inRest
      · exact ⟨handle, List.mem_cons_self, headEq, rfl⟩
      · obtain ⟨other, otherMem, found⟩ :=
          ih (fun other otherMem => all other (List.mem_cons_of_mem _ otherMem)) inRest
        exact ⟨other, List.mem_cons_of_mem _ otherMem, found⟩

/-- The outcome of a round in which target times differ: the error names a generator
whose report differs from the one it was compared with. -/
theorem mergeRound_differ {kept : List GeneratorHandle}
    (all : ∀ handle ∈ kept, handle.headReport.isSome)
    (differ : ∃ first ∈ kept.filterMap (·.headReport),
      ∃ second ∈ kept.filterMap (·.headReport), first.targetTime ≠ second.targetTime) :
    ∃ handle ∈ kept, ∃ report reference : IntervalReport,
      handle.headReport = some report ∧
        reference ∈ kept.filterMap (·.headReport) ∧
          report.targetTime ≠ reference.targetTime ∧
            mergeRound (kept.map (·.taken)) (kept.filterMap (·.headReport)) =
              .error (.timeMismatch handle.address
                reference.targetTime.duration.asSecsF64
                  report.targetTime.duration.asSecsF64) := by
  have sameLength : (kept.filterMap (·.headReport)).length = (kept.map (·.taken)).length := by
    rw [List.length_map, List.length_filterMap_eq_countP, List.countP_eq_length]
    exact all
  obtain ⟨first, firstMem, second, secondMem, firstNe⟩ := differ
  cases reportsEq : kept.filterMap (·.headReport) with
  | nil =>
      rw [reportsEq] at firstMem
      cases firstMem
  | cons reference rest =>
      -- one of the two differs from the reference, so the search finds someone
      obtain ⟨other, otherMem, otherNe⟩ :
          ∃ other ∈ kept.filterMap (·.headReport),
            other.targetTime ≠ reference.targetTime := by
        by_cases firstSame : first.targetTime = reference.targetTime
        · exact ⟨second, secondMem, fun same => firstNe (firstSame.trans same.symm)⟩
        · exact ⟨first, firstMem, firstSame⟩
      cases foundEq : ((reference :: rest).zip (kept.map (·.taken))).find?
          (fun pair => pair.1.targetTime ≠ reference.targetTime) with
      | none =>
          rw [List.find?_eq_none] at foundEq
          rw [reportsEq] at sameLength otherMem
          rw [← List.map_fst_zip sameLength.le] at otherMem
          obtain ⟨pair, inZip, rfl⟩ := List.mem_map.mp otherMem
          exact absurd (foundEq pair inZip) (by simpa using otherNe)
      | some pair =>
          have differs := List.find?_some foundEq
          have inZip := List.mem_of_find?_eq_some foundEq
          rw [← reportsEq] at inZip
          obtain ⟨handle, handleMem, headEq, takenEq⟩ := mem_zip_taken all inZip
          refine ⟨handle, handleMem, pair.1, reference, headEq, List.mem_cons_self,
            by simpa using differs, ?_⟩
          simp only [mergeRound, foundEq, ← takenEq]
          rfl

end CreoBench
