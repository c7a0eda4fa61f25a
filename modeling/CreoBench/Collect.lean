import CreoBench.Library.ListIndex
import CreoBench.Wire
import Mathlib.Data.UInt

/-!
# Merging the reports of all generators

The orchestrator receives one update of every generator per round.  Generators
that have finished leave the list of handles while the round still walks through
it by index; the last handle then takes the free place.  One specification lemma
says what a round does to handles that all have an update.
-/

namespace CreoBench

/-- A started generator as the orchestrator sees it: the updates that arrived and
are not taken yet, and whether the sender is gone. -/
structure GeneratorHandle where
  address : String
  receiver : List GeneratorUpdate
  closed : Bool
  deriving DecidableEq

inductive CollectError where
  | instanceCrashed (address : String)
  | timeMismatch (address : String) (expected actual : Binary64)
  deriving DecidableEq

namespace GeneratorHandle

/-- `recv`: the next update, or `some none` once the channel is empty and closed.
`none` while the call waits. -/
def recv (handle : GeneratorHandle) : Option (Option GeneratorUpdate × GeneratorHandle) :=
  match handle.receiver with
  | update :: receiver => some (some update, { handle with receiver })
  | [] => if handle.closed then some (none, handle) else none

/-- The report at the front of the channel, if a report is there. -/
def headReport (handle : GeneratorHandle) : Option IntervalReport :=
  match handle.receiver with
  | .intervalReport report :: _ => some report
  | _ => none

/-- The handle after one update was taken. -/
def taken (handle : GeneratorHandle) : GeneratorHandle :=
  { handle with receiver := handle.receiver.tail }

end GeneratorHandle

/-- The loop over the handles.  `remaining` counts the handles from index `i` on;
every turn either advances the index or removes a handle. -/
def collectRound : Nat → Nat → List GeneratorHandle → List IntervalReport →
    Option (Except CollectError (List IntervalReport) × List GeneratorHandle)
  | 0, _, handles, roundReports => some (.ok roundReports, handles)
  | remaining + 1, i, handles, roundReports =>
      match handles[i]? with
      | none => some (.ok roundReports, handles)
      | some handle =>
          match handle.recv with
          | none => none
          | some (some (.intervalReport report), received) =>
              collectRound remaining (i + 1) (handles.set i received)
                (roundReports ++ [report])
          | some (some .finished, _) =>
              collectRound remaining i (handles.swapRemove i) roundReports
          | some (none, _) =>
              some (.error (.instanceCrashed handle.address), handles.swapRemove i)

/-- `max` of the times that are present. -/
def latest (times : List RelativeLoadTestTime) : Option RelativeLoadTestTime :=
  (times.map (·.duration)).max?.map (⟨·⟩)

/-- The part of `collect_reports` after the loop.  The round's reports and the
handles are equally long, so `handles[i]` is the handle next to the `i`-th report. -/
def mergeRound (handles : List GeneratorHandle) (roundReports : List IntervalReport) :
    Except CollectError (Option IntervalReport) :=
  match roundReports with
  | [] => .ok none
  | first :: _ =>
      let expected := first.targetTime
      match (roundReports.zip handles).find? fun pair => pair.1.targetTime ≠ expected with
      | some (report, handle) =>
          .error (.timeMismatch handle.address expected.duration.asSecsF64
            report.targetTime.duration.asSecsF64)
      | none =>
          .ok (some
            { targetTime := expected
              loadLevel := (roundReports.map (·.loadLevel)).sum
              stats := .sum (roundReports.map (·.stats))
              finalBatchTime := latest (roundReports.filterMap (·.finalBatchTime)) })

/-- One call of `collect_reports`; `none` while it waits for an update. -/
def collectReports (handles : List GeneratorHandle) :
    Option (Except CollectError (Option IntervalReport) × List GeneratorHandle) :=
  if handles = [] then some (.ok none, handles)
  else
    match collectRound handles.length 0 handles [] with
    | none => none
    | some (.error error, handles) => some (.error error, handles)
    | some (.ok roundReports, handles) => some (mergeRound handles roundReports, handles)

namespace GeneratorHandle

theorem recv_report {handle : GeneratorHandle} {report : IntervalReport}
    (found : handle.headReport = some report) :
    handle.recv = some (some (.intervalReport report), handle.taken) := by
  unfold headReport at found
  split at found
  · rename_i receiverEq
    cases found
    simp [recv, taken, receiverEq]
  · cases found

theorem recv_finished {handle : GeneratorHandle} (ready : handle.receiver ≠ [])
    (found : handle.headReport = none) : handle.recv = some (some .finished, handle.taken) := by
  cases receiverEq : handle.receiver with
  | nil => exact absurd receiverEq ready
  | cons update receiver =>
      cases update with
      | intervalReport report => simp [headReport, receiverEq] at found
      | finished => simp [recv, taken, receiverEq]

end GeneratorHandle

/-- A round over handles that all have an update keeps those with a report, in some
order, and takes one update of each. -/
theorem collectRound_ready (front waiting : List GeneratorHandle)
    (roundReports : List IntervalReport)
    (ready : ∀ handle ∈ waiting, handle.receiver ≠ []) :
    ∃ kept : List GeneratorHandle, kept.Perm (waiting.filter (·.headReport.isSome)) ∧
      collectRound waiting.length front.length (front ++ waiting) roundReports =
        some (.ok (roundReports ++ kept.filterMap (·.headReport)),
          front ++ kept.map (·.taken)) := by
  induction lengthEq : waiting.length generalizing front waiting roundReports with
  | zero =>
      obtain rfl := List.length_eq_zero_iff.mp lengthEq
      exact ⟨[], List.Perm.nil, by simp [collectRound]⟩
  | succ remaining ih =>
      obtain ⟨handle, rest, rfl⟩ := List.exists_cons_of_length_eq_add_one lengthEq
      have restLength : rest.length = remaining := Nat.succ_inj.mp lengthEq
      have handleReady := ready handle List.mem_cons_self
      have restReady : ∀ other ∈ rest, other.receiver ≠ [] := fun other member =>
        ready other (List.mem_cons_of_mem _ member)
      have atHandle : (front ++ handle :: rest)[front.length]? = some handle := by simp
      cases headEq : handle.headReport with
      | some report =>
          obtain ⟨kept, keptPerm, result⟩ := ih (front ++ [handle.taken]) rest
            (roundReports ++ [report]) restReady restLength
          refine ⟨handle :: kept, ?_, ?_⟩
          · rw [List.filter_cons_of_pos (by simp [headEq])]
            exact keptPerm.cons handle
          · have setEq : (front ++ handle :: rest).set front.length handle.taken =
                front ++ [handle.taken] ++ rest := by simp
            rw [List.length_append, List.length_singleton] at result
            rw [collectRound, atHandle]
            simp only [GeneratorHandle.recv_report headEq]
            rw [setEq, result]
            simp [headEq]
      | none =>
          -- the last handle moves to the free place and is looked at next
          have movedReady : ∀ other ∈ rest.lastFirst, other.receiver ≠ [] :=
            fun other member => restReady other (rest.lastFirst_perm.mem_iff.mp member)
          obtain ⟨kept, keptPerm, result⟩ := ih front rest.lastFirst roundReports movedReady
            (rest.length_lastFirst.trans restLength)
          refine ⟨kept, ?_, ?_⟩
          · rw [List.filter_cons_of_neg (by simp [headEq])]
            exact keptPerm.trans (rest.lastFirst_perm.filter _)
          · rw [collectRound, atHandle]
            simp only [GeneratorHandle.recv_finished handleReady headEq]
            rw [List.swapRemove_append_cons, result]

/-- A round waits as long as some open channel is empty. -/
theorem collectRound_waits (front waiting : List GeneratorHandle)
    (roundReports : List IntervalReport)
    (isOpen : ∀ handle ∈ waiting, handle.receiver = [] → handle.closed = false)
    (empty : ∃ handle ∈ waiting, handle.receiver = []) :
    collectRound waiting.length front.length (front ++ waiting) roundReports = none := by
  induction lengthEq : waiting.length generalizing front waiting roundReports with
  | zero =>
      obtain rfl := List.length_eq_zero_iff.mp lengthEq
      simp at empty
  | succ remaining ih =>
      obtain ⟨handle, rest, rfl⟩ := List.exists_cons_of_length_eq_add_one lengthEq
      have restLength : rest.length = remaining := Nat.succ_inj.mp lengthEq
      have restOpen : ∀ other ∈ rest, other.receiver = [] → other.closed = false :=
        fun other member => isOpen other (List.mem_cons_of_mem _ member)
      have atHandle : (front ++ handle :: rest)[front.length]? = some handle := by simp
      by_cases handleEmpty : handle.receiver = []
      · have stays : handle.recv = none := by
          simp [GeneratorHandle.recv, handleEmpty,
            isOpen handle List.mem_cons_self handleEmpty]
        rw [collectRound, atHandle]
        simp only [stays]
      · have restEmpty : ∃ other ∈ rest, other.receiver = [] := by
          obtain ⟨other, member, otherEmpty⟩ := empty
          rcases List.mem_cons.mp member with rfl | inRest
          · exact absurd otherEmpty handleEmpty
          · exact ⟨other, inRest, otherEmpty⟩
        cases headEq : handle.headReport with
        | some report =>
            have result := ih (front ++ [handle.taken]) rest (roundReports ++ [report])
              restOpen restEmpty restLength
            have setEq : (front ++ handle :: rest).set front.length handle.taken =
                front ++ [handle.taken] ++ rest := by simp
            rw [List.length_append, List.length_singleton] at result
            rw [collectRound, atHandle]
            simp only [GeneratorHandle.recv_report headEq]
            rw [setEq, result]
        | none =>
            have member_iff := fun other : GeneratorHandle =>
              rest.lastFirst_perm.mem_iff (a := other)
            have result := ih front rest.lastFirst roundReports
              (fun other member => restOpen other ((member_iff other).mp member))
              (by simpa only [member_iff] using restEmpty)
              (rest.length_lastFirst.trans restLength)
            rw [collectRound, atHandle]
            simp only [GeneratorHandle.recv_finished handleEmpty headEq]
            rw [List.swapRemove_append_cons, result]

/-- One call on handles that all have an update. -/
theorem collectReports_ready {handles : List GeneratorHandle} (nonempty : handles ≠ [])
    (ready : ∀ handle ∈ handles, handle.receiver ≠ []) :
    ∃ kept : List GeneratorHandle, kept.Perm (handles.filter (·.headReport.isSome)) ∧
      collectReports handles =
        some (mergeRound (kept.map (·.taken)) (kept.filterMap (·.headReport)),
          kept.map (·.taken)) := by
  obtain ⟨kept, keptPerm, result⟩ := collectRound_ready [] handles [] ready
  refine ⟨kept, keptPerm, ?_⟩
  rw [List.length_nil, List.nil_append] at result
  rw [collectReports, if_neg nonempty, result]
  rfl

end CreoBench
