import CreoBench.Library.Columns
import CreoBench.MergeRound

/-!
# Collecting reports refines reading the streams column by column

Abstractly, the reports of all generators form rows of different lengths, and the
`k`-th merged report stands for the `k`-th column.  The handles lose finished
generators in the middle of a round and change their order, but the invariant
that carries the proof ignores order: after `k` rounds they are a permutation of
the streams with at least `k` reports, each read up to its `k`-th report.
-/

open scoped List

namespace CreoBench

/-- The complete stream of a generator: its reports, followed by the final update. -/
structure ReportStream where
  address : String
  reports : List IntervalReport
  deriving DecidableEq

namespace ReportStream

/-- The handle of a stream of which `taken` reports were received. -/
def handle (taken : Nat) (stream : ReportStream) : GeneratorHandle where
  address := stream.address
  receiver := (stream.reports.drop taken).map .intervalReport ++ [.finished]
  closed := true

theorem headReport_handle (taken : Nat) (stream : ReportStream) :
    (stream.handle taken).headReport = stream.reports[taken]? := by
  rw [← List.head?_drop, GeneratorHandle.headReport, handle]
  cases stream.reports.drop taken <;> rfl

theorem taken_handle {taken : Nat} {stream : ReportStream}
    (present : taken < stream.reports.length) :
    (stream.handle taken).taken = stream.handle (taken + 1) := by
  rw [GeneratorHandle.taken, handle, handle, List.drop_eq_getElem_cons present]
  rfl

end ReportStream

/-- The reports that the streams have at `index`. -/
def roundReports (streams : List ReportStream) (index : Nat) : List IntervalReport :=
  List.column (streams.map (·.reports)) index

/-- The number of rounds in which some stream has a report. -/
def roundCount (streams : List ReportStream) : Nat :=
  List.width (streams.map (·.reports))

/-- All generators that have a report in a round agree on its target time. -/
def AgreeAt (streams : List ReportStream) (index : Nat) : Prop :=
  ∀ first ∈ roundReports streams index, ∀ second ∈ roundReports streams index,
    first.targetTime = second.targetTime

instance (streams : List ReportStream) (index : Nat) : Decidable (AgreeAt streams index) :=
  inferInstanceAs (Decidable (∀ first ∈ _, ∀ second ∈ _, _))

/-- The streams whose handles are still in the list after `taken` rounds. -/
def liveStreams (streams : List ReportStream) (taken : Nat) : List ReportStream :=
  streams.filter (taken ≤ ·.reports.length)

/-- The outcomes of `count` successive calls, as `collect_and_persist` makes them. -/
def collectCalls (handles : List GeneratorHandle) :
    Nat → Option (List (Except CollectError (Option IntervalReport)) × List GeneratorHandle)
  | 0 => some ([], handles)
  | count + 1 => do
      let (outcomes, handles) ← collectCalls handles count
      let (outcome, handles) ← collectReports handles
      return (outcomes ++ [outcome], handles)

theorem mem_liveStreams {streams : List ReportStream} {taken : Nat} {stream : ReportStream} :
    stream ∈ liveStreams streams taken ↔ stream ∈ streams ∧ taken ≤ stream.reports.length := by
  simp [liveStreams]

theorem liveStreams_zero (streams : List ReportStream) : liveStreams streams 0 = streams :=
  List.filter_eq_self.mpr fun _ _ => by simp

theorem liveStreams_ne_nil {streams : List ReportStream} {taken : Nat}
    (nonempty : streams ≠ []) (within : taken ≤ roundCount streams) :
    liveStreams streams taken ≠ [] := by
  cases taken with
  | zero => rwa [liveStreams_zero]
  | succ earlier =>
      obtain ⟨row, member, long⟩ := List.lt_width_iff.mp within
      obtain ⟨stream, streamMem, rfl⟩ := List.mem_map.mp member
      exact List.ne_nil_of_mem (mem_liveStreams.mpr ⟨streamMem, long⟩)

/-- The handles that have a report in a round are those of the next live streams. -/
theorem filter_headReport (streams : List ReportStream) (taken : Nat) :
    ((liveStreams streams taken).map (·.handle taken)).filter (·.headReport.isSome) =
      (liveStreams streams (taken + 1)).map (·.handle taken) := by
  rw [List.filter_map, liveStreams, List.filter_filter, liveStreams]
  congr 1
  apply List.filter_congr
  intro stream _
  simp only [Function.comp_apply, ReportStream.headReport_handle]
  by_cases present : taken < stream.reports.length
  · simp [present, Nat.succ_le_of_lt present, Nat.le_of_lt present]
  · simp [present, Nat.not_le_of_gt (Nat.lt_succ_of_le (Nat.le_of_not_lt present))]

theorem filterMap_headReport (streams : List ReportStream) (taken : Nat) :
    ((liveStreams streams (taken + 1)).map (·.handle taken)).filterMap (·.headReport) =
      roundReports streams taken := by
  rw [roundReports, List.column, List.filterMap_map, List.filterMap_map, liveStreams]
  induction streams with
  | nil => rfl
  | cons stream streams ih =>
      by_cases present : taken + 1 ≤ stream.reports.length
      · rw [List.filter_cons_of_pos (by simpa using present), List.filterMap_cons,
          List.filterMap_cons, ih]
        simp [ReportStream.headReport_handle]
      · have absent : stream.reports[taken]? = none :=
          List.getElem?_eq_none (by omega)
        rw [List.filter_cons_of_neg (by simpa using present), List.filterMap_cons, ih]
        simp [absent]

/-- One call on the handles of the streams still alive: it keeps the handles with a
report, whose reports are those of the column. -/
theorem collectReports_live {streams : List ReportStream} {taken : Nat}
    {handles : List GeneratorHandle} (nonempty : streams ≠ [])
    (within : taken ≤ roundCount streams)
    (invariant : handles ~ (liveStreams streams taken).map (·.handle taken)) :
    ∃ kept : List GeneratorHandle,
      kept ~ (liveStreams streams (taken + 1)).map (·.handle taken) ∧
        kept.filterMap (·.headReport) ~ roundReports streams taken ∧
          kept.map (·.taken) ~
              (liveStreams streams (taken + 1)).map (·.handle (taken + 1)) ∧
            collectReports handles =
              some (mergeRound (kept.map (·.taken)) (kept.filterMap (·.headReport)),
                kept.map (·.taken)) := by
  have handlesNe : handles ≠ [] := by
    rintro rfl
    exact liveStreams_ne_nil nonempty within (List.map_eq_nil_iff.mp invariant.nil_eq.symm)
  have ready : ∀ handle ∈ handles, handle.receiver ≠ [] := by
    intro handle member
    obtain ⟨stream, -, rfl⟩ := List.mem_map.mp (invariant.mem_iff.mp member)
    simp [ReportStream.handle]
  obtain ⟨kept, keptPerm, result⟩ := collectReports_ready handlesNe ready
  have keptLive := keptPerm.trans (invariant.filter _)
  rw [filter_headReport] at keptLive
  refine ⟨kept, keptLive, ?_, ?_, result⟩
  · rw [← filterMap_headReport]
    exact keptLive.filterMap _
  · refine (keptLive.map _).trans (.of_eq ?_)
    rw [List.map_map]
    apply List.map_congr_left
    intro stream member
    exact ReportStream.taken_handle (mem_liveStreams.mp member).2

/-- The rounds before which all target times agreed. -/
theorem collectCalls_agree {streams : List ReportStream} (nonempty : streams ≠ [])
    (count : Nat) (within : count ≤ roundCount streams)
    (agree : ∀ index < count, AgreeAt streams index) :
    ∃ merged : List IntervalReport, ∃ handles,
      merged.length = count ∧
        (∀ index report, merged[index]? = some report →
          IntervalReport.IsMerge (roundReports streams index) report) ∧
          collectCalls (streams.map (·.handle 0)) count =
              some (merged.map fun report => .ok (some report), handles) ∧
            handles ~ (liveStreams streams count).map (·.handle count) := by
  induction count with
  | zero => exact ⟨[], _, rfl, nofun, rfl, by rw [liveStreams_zero]⟩
  | succ count ih =>
      obtain ⟨merged, handles, lengthEq, isMerge, calls, invariant⟩ :=
        ih (by omega) fun index before => agree index (by omega)
      obtain ⟨kept, -, reportsPerm, takenPerm, result⟩ :=
        collectReports_live nonempty (by omega) invariant
      have agreeKept : ∀ first ∈ kept.filterMap (·.headReport),
          ∀ second ∈ kept.filterMap (·.headReport), first.targetTime = second.targetTime :=
        fun first firstMem second secondMem => agree count (Nat.lt_succ_self _)
          first (reportsPerm.mem_iff.mp firstMem) second (reportsPerm.mem_iff.mp secondMem)
      have present : kept.filterMap (·.headReport) ≠ [] := by
        intro none
        rw [none] at reportsPerm
        have := List.column_eq_nil_iff.mp reportsPerm.nil_eq.symm
        rw [roundCount] at within
        omega
      obtain ⟨report, merge, reportIsMerge⟩ :=
        mergeRound_agree (kept.map (·.taken)) present agreeKept
      refine ⟨merged ++ [report], kept.map (·.taken), by simp [lengthEq], ?_, ?_, takenPerm⟩
      · intro index later found
        rcases List.getElem?_concat_eq_some.mp found with old | ⟨rfl, rfl⟩
        · exact isMerge index later old
        · rw [lengthEq]
          exact reportIsMerge.perm reportsPerm
      · simp [collectCalls, calls, result, merge]

/-- The successive calls merge the columns one after the other and then end; and if
the target times of a column differ, the call fails there and blames a generator of
that column. -/
theorem collectCalls_refine_columns {streams : List ReportStream} (nonempty : streams ≠ [])
    (fits : ∀ index, ((roundReports streams index).map (·.loadLevel.toNat)).sum < 2 ^ 32) :
    ((∀ index, AgreeAt streams index) →
      ∃ merged : List IntervalReport, merged.length = roundCount streams ∧
        (∀ index report, merged[index]? = some report →
          IntervalReport.IsMerge (roundReports streams index) report ∧
            report.loadLevel.toNat =
              ((roundReports streams index).map (·.loadLevel.toNat)).sum) ∧
          collectCalls (streams.map (·.handle 0)) (roundCount streams + 1) =
            some ((merged.map fun report => .ok (some report)) ++ [.ok none], [])) ∧
    ∀ count, (∀ index < count, AgreeAt streams index) → ¬ AgreeAt streams count →
      ∃ merged : List IntervalReport, ∃ stream ∈ streams, ∃ report reference handles,
        merged.length = count ∧
          (∀ index earlier, merged[index]? = some earlier →
            IntervalReport.IsMerge (roundReports streams index) earlier) ∧
            stream.reports[count]? = some report ∧
              reference ∈ roundReports streams count ∧
                report.targetTime ≠ reference.targetTime ∧
                  collectCalls (streams.map (·.handle 0)) (count + 1) =
                    some ((merged.map fun report => .ok (some report)) ++
                      [.error (.timeMismatch stream.address
                        reference.targetTime.duration.asSecsF64
                          report.targetTime.duration.asSecsF64)], handles) := by
  constructor
  · intro agree
    obtain ⟨merged, handles, lengthEq, isMerge, calls, invariant⟩ :=
      collectCalls_agree nonempty (roundCount streams) (Nat.le_refl _) fun index _ => agree index
    obtain ⟨kept, keptPerm, reportsPerm, takenPerm, result⟩ :=
      collectReports_live nonempty (Nat.le_refl _) invariant
    have noReports : roundReports streams (roundCount streams) = [] :=
      List.column_eq_nil_iff.mpr (Nat.le_refl _)
    have noneLive : liveStreams streams (roundCount streams + 1) = [] := by
      rw [List.eq_nil_iff_forall_not_mem]
      intro stream live
      obtain ⟨member, long⟩ := mem_liveStreams.mp live
      have : roundCount streams < roundCount streams :=
        List.lt_width_iff.mpr ⟨stream.reports, List.mem_map_of_mem member, long⟩
      omega
    rw [noneLive, List.map_nil] at keptPerm
    obtain rfl := List.perm_nil.mp keptPerm
    refine ⟨merged, lengthEq, fun index report found => ?_, ?_⟩
    · exact ⟨isMerge index report found, (isMerge index report found).loadLevel_toNat (fits index)⟩
    · simp [collectCalls, calls, result, mergeRound]
  · intro count agree disagree
    have within : count ≤ roundCount streams := by
      by_contra beyond
      apply disagree
      have noReports : roundReports streams count = [] :=
        List.column_eq_nil_iff.mpr (by rw [roundCount] at beyond; omega)
      intro first member
      rw [noReports] at member
      cases member
    obtain ⟨merged, handles, lengthEq, isMerge, calls, invariant⟩ :=
      collectCalls_agree nonempty count within agree
    obtain ⟨kept, keptPerm, reportsPerm, -, result⟩ :=
      collectReports_live nonempty within invariant
    have all : ∀ handle ∈ kept, handle.headReport.isSome := by
      intro handle member
      obtain ⟨stream, live, rfl⟩ := List.mem_map.mp (keptPerm.mem_iff.mp member)
      rw [ReportStream.headReport_handle, isSome_getElem?]
      exact (mem_liveStreams.mp live).2
    have differ : ∃ first ∈ kept.filterMap (·.headReport),
        ∃ second ∈ kept.filterMap (·.headReport), first.targetTime ≠ second.targetTime := by
      by_contra same
      push Not at same
      exact disagree fun first firstMem second secondMem =>
        same first (reportsPerm.mem_iff.mpr firstMem) second (reportsPerm.mem_iff.mpr secondMem)
    obtain ⟨handle, handleMem, report, reference, headEq, referenceMem, ne, failed⟩ :=
      mergeRound_differ all differ
    obtain ⟨stream, live, rfl⟩ := List.mem_map.mp (keptPerm.mem_iff.mp handleMem)
    rw [ReportStream.headReport_handle] at headEq
    refine ⟨merged, stream, (mem_liveStreams.mp live).1, report, reference, kept.map (·.taken),
      lengthEq, isMerge, headEq, reportsPerm.mem_iff.mp referenceMem, ne, ?_⟩
    have addressEq : (stream.handle count).address = stream.address := rfl
    simp [collectCalls, calls, result, failed, addressEq]

/-- An idle report of one transaction. -/
private def secondReport (second : Nat) : IntervalReport :=
  ⟨⟨Duration.fromSecs second⟩, 1, .default, none⟩

private def unevenStreams : List ReportStream :=
  [⟨"127.0.0.1:8000", [secondReport 1]⟩, ⟨"127.0.0.1:8001", [secondReport 1, secondReport 2]⟩]

private def shiftedStreams : List ReportStream :=
  [⟨"127.0.0.1:8000", [secondReport 1]⟩, ⟨"127.0.0.1:8001", [secondReport 2]⟩]

/-- A generator that finishes a round before the other, and one that is a second off. -/
theorem collectCalls_refine_columns_twoStreams :
    (∃ merged : List IntervalReport, merged.length = 2 ∧
      collectCalls (unevenStreams.map (·.handle 0)) 3 =
        some ((merged.map fun report => .ok (some report)) ++ [.ok none], [])) ∧
    ∃ stream ∈ shiftedStreams, ∃ expected actual handles,
      collectCalls (shiftedStreams.map (·.handle 0)) 1 =
        some ([.error (.timeMismatch stream.address expected actual)], handles) := by
  have later : ∀ index, roundReports unevenStreams (index + 2) = [] ∧
      roundReports shiftedStreams (index + 2) = [] := fun _ => ⟨rfl, rfl⟩
  constructor
  · obtain ⟨merged, lengthEq, -, calls⟩ := (@collectCalls_refine_columns unevenStreams
      (by decide) fun
        | 0 | 1 => by decide
        | index + 2 => by simp [later]).1 fun
        | 0 | 1 => by decide
        | index + 2 => by simp [AgreeAt, later]
    exact ⟨merged, lengthEq, calls⟩
  · obtain ⟨merged, stream, member, report, reference, handles, lengthEq, -, -, -, -, calls⟩ :=
      (@collectCalls_refine_columns shiftedStreams (by decide) fun
        | 0 | 1 => by decide
        | index + 2 => by simp [later]).2 0 nofun (by decide)
    obtain rfl := List.length_eq_zero_iff.mp lengthEq
    exact ⟨stream, member, _, _, handles, calls⟩

end CreoBench
