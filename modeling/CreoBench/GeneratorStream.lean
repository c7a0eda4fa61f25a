import CreoBench.ReportShape
import CreoBench.ResultConservation
import CreoBench.StartBarrier

/-!
# What the orchestrator can receive from a generator

The updates of a generator only grow, and nothing follows the final one.  The report
at a position of the stream is the one that the generator's own configuration calls
for there, as it comes off the wire.
-/

namespace CreoBench

namespace ReadyHandle

theorem sent_prefix {handle next : ReadyHandle} {event : Event}
    (stepped : handle.step event = some next) : handle.sent <+: next.sent := by
  cases event with
  | tick elapsed =>
      cases stepped
      exact List.prefix_refl _
  | pace gaps => rw [(sameReports_pace stepped).sent]
  | report =>
      cases report_cases stepped <;>
        first | exact List.prefix_refl _ | exact List.prefix_append _ _
  | sendFails => rw [sendFails_eq_some stepped]
  | complete index outcome finishedAt =>
      rcases complete_eq_some stepped with ⟨task, -, rfl⟩
      exact List.prefix_refl _

/-- What holds of a generator whatever fails: no transaction is lost before its result
is logged, and the final update is the last one. -/
structure Streams (handle : ReadyHandle) : Prop where
  conserved : handle.Conserved
  ended : handle.Ended

theorem streams_of_reachable {handle : ReadyHandle} (reachable : machine.Reachable handle) :
    handle.Streams := by
  apply reachable.invariant_of_known (fun _ reached => (wellReported_of_reachable reached).aligned)
  · rintro _ ⟨loadgeneratorId, profile, warmup, now, rfl⟩
    exact ⟨conserved_new loadgeneratorId profile warmup now, fun _ => rfl, rfl⟩
  · intro _ _ _ aligned ⟨conserved, ended⟩ _ stepped
    exact ⟨conserved.step stepped, ended.step conserved aligned stepped⟩

theorem reports_prefix (handle : ReadyHandle) : reportsIn handle.sent <+: handle.reports :=
  List.prefix_append _ _

/-- The final update comes after all reports at fixed times. -/
theorem scheduled_of_finished {handle : ReadyHandle} (reachable : machine.Reachable handle)
    (finished : .finished ∈ handle.sent) :
    handle.scheduledReports ≤ (reportsIn handle.sent).length := by
  have atEnd := (streams_of_reachable reachable).ended.finished finished
  have aligned := (wellReported_of_reachable reachable).aligned
  rw [Aligned, atEnd, reports_of_unsent (by rw [atEnd]; rfl)] at aligned
  rw [aligned.1]
  exact Nat.le_add_right _ _

end ReadyHandle

namespace LoadGenerator

/-- The reports sent so far. -/
def reported (generator : LoadGenerator) : List IntervalReport :=
  ReadyHandle.reportsIn generator.updates

theorem updates_of_started {generator : LoadGenerator} {handle : ReadyHandle}
    (positionEq : generator.position = .started handle) : generator.updates = handle.sent := by
  rw [updates, positionEq]

theorem updates_eq_nil {generator : LoadGenerator}
    (notStarted : ∀ handle, generator.position ≠ .started handle) : generator.updates = [] := by
  unfold updates
  split
  · rename_i handle positionEq
    exact absurd positionEq (notStarted handle)
  · rfl

theorem exists_started {generator : LoadGenerator} (some : generator.updates ≠ []) :
    ∃ handle, generator.position = .started handle := by
  unfold updates at some
  split at some
  · exact ⟨_, by assumption⟩
  · exact absurd rfl some

theorem updates_prefix {generator next : LoadGenerator} {event : Event}
    (stepped : generator.step event = some next) : generator.updates <+: next.updates := by
  cases testStep_of_step stepped with
  | same positionEq => rw [updates, updates, positionEq]
  | waits before _ | begins before =>
      rw [updates_eq_nil before]
      exact List.nil_prefix
  | moves _ positionEq moved nextEq =>
      rw [updates_of_started positionEq, updates_of_started nextEq]
      exact ReadyHandle.sent_prefix moved

/-- The reports come first, then possibly the final update. -/
theorem Sound.updates_eq {generator : LoadGenerator} (sound : generator.Sound) :
    generator.updates = generator.reported.map .intervalReport ∨
      generator.updates = generator.reported.map .intervalReport ++ [.finished] := by
  by_cases none : generator.updates = []
  · exact .inl (by rw [reported, none]; rfl)
  · rcases exists_started none with ⟨handle, positionEq⟩
    have readSoFar := sound.readSoFar
    rw [positionEq] at readSoFar
    have sent := (ReadyHandle.streams_of_reachable readSoFar.2.1).ended.sent
    rw [reported, updates_of_started positionEq]
    cases reporterEq : handle.reporter <;> rw [reporterEq] at sent
    case finished => exact .inr sent
    all_goals exact .inl (sent.trans (List.append_nil _))

/-- Nothing follows the final update. -/
theorem Sound.updates_final {generator next : LoadGenerator} (sound : next.Sound)
    (grown : generator.updates <+: next.updates) (ended : .finished ∈ generator.updates) :
    next.updates = generator.updates := by
  rcases sound.updates_eq with shape | shape
  · have member := grown.subset ended
    rw [shape] at member
    simp at member
  · rcases grown with ⟨rest, appended⟩
    rcases List.eq_nil_or_concat rest with rfl | ⟨init, last, rfl⟩
    · rw [← appended, List.append_nil]
    · have cut : generator.updates ++ init = next.reported.map .intervalReport := by
        have same := appended.trans shape
        rw [List.concat_eq_append, ← List.append_assoc] at same
        exact (List.append_inj' same rfl).1
      have member : GeneratorUpdate.finished ∈ generator.updates ++ init :=
        List.mem_append_left _ ended
      rw [cut] at member
      simp at member

end LoadGenerator

/-! ## Off the wire -/

theorem IntervalReport.loadLevel_seen (report : IntervalReport) :
    (IntervalReport.codec.seen report).loadLevel = report.loadLevel :=
  have delivered : (SerdeCodec.u32 : Codec SerdeError Unconvertible UInt32).Delivers
      report.loadLevel report.loadLevel :=
    SerdeCodec.delivers_u32 report.loadLevel
  delivered.seen

theorem IntervalReport.finalBatchTime_seen {report : IntervalReport}
    (noBatch : report.finalBatchTime = none) :
    (IntervalReport.codec.seen report).finalBatchTime = none := by
  change (SerdeCodec.option RelativeLoadTestTime.codec).seen report.finalBatchTime = none
  rw [noBatch]
  rfl

theorem IntervalReport.results_seen (report : IntervalReport) :
    (IntervalReport.codec.seen report).results =
      report.results.map TransactionResult.codec.seen := rfl

/-- Whole seconds return from the wire. -/
theorem RelativeLoadTestTime.seen_fromSecs {secs : Nat} (small : secs < 2 ^ 53) :
    RelativeLoadTestTime.codec.seen ⟨Duration.fromSecs secs⟩ = ⟨Duration.fromSecs secs⟩ := by
  change (⟨(Duration.fromSecsF64 (Duration.fromSecs secs).asSecsF64).getD _⟩ :
    RelativeLoadTestTime) = _
  rw [Duration.fromSecsF64_asSecsF64_fromSecs small]
  rfl

theorem TransactionResult.isDropped_seen (result : TransactionResult) :
    (TransactionResult.codec.seen result).isDropped = result.isDropped := by
  cases result <;> rfl

namespace Link

/-- The report at a position of the stream, as it comes off the wire. -/
def report (link : Link) (index : Nat) : Option IntervalReport :=
  link.generator.reported[index]?.map IntervalReport.codec.seen

/-- The final update has been sent. -/
def HasEnded (link : Link) : Prop := .finished ∈ link.generator.updates

theorem report_isSome {link : Link} {index : Nat} :
    (link.report index).isSome ↔ index < link.generator.reported.length := by
  simp [report]

theorem report_eq_none {link : Link} {index : Nat}
    (short : link.generator.reported.length ≤ index) : link.report index = none := by
  rw [report, List.getElem?_eq_none short]
  rfl

/-- What `recv` returns when the next update is a report. -/
theorem report_of_nextUpdate {link : Link} {report : IntervalReport} (sound : link.Sound)
    (next : link.nextUpdate = some (.intervalReport report)) :
    link.report link.received = some report := by
  rcases Option.map_eq_some_iff.mp next with ⟨update, found, seen⟩
  cases update with
  | finished => cases seen
  | intervalReport original =>
      cases seen
      have inReports :
          (link.generator.reported.map GeneratorUpdate.intervalReport)[link.received]? =
            some (.intervalReport original) := by
        rcases sound.generator.updates_eq with shape | shape <;> rw [shape] at found
        · exact found
        · rcases List.getElem?_concat_eq_some.mp found with found | ⟨-, final⟩
          · exact found
          · cases final
      rw [List.getElem?_map] at inReports
      rcases Option.map_eq_some_iff.mp inReports with ⟨reported, found, same⟩
      cases same
      rw [Link.report, found]
      rfl

/-- What `recv` returns after all reports. -/
theorem hasEnded_of_nextUpdate {link : Link} (sound : link.Sound)
    (next : link.nextUpdate = some .finished) :
    link.HasEnded ∧ link.generator.reported.length = link.received := by
  rcases Option.map_eq_some_iff.mp next with ⟨update, found, seen⟩
  cases update with
  | intervalReport original => cases seen
  | finished =>
      refine ⟨List.mem_of_getElem? found, ?_⟩
      rcases sound.generator.updates_eq with shape | shape <;> rw [shape] at found
      · rw [List.getElem?_map] at found
        rcases Option.map_eq_some_iff.mp found with ⟨_, -, same⟩
        cases same
      · rcases List.getElem?_concat_eq_some.mp found with found | ⟨atEnd, -⟩
        · rw [List.getElem?_map] at found
          rcases Option.map_eq_some_iff.mp found with ⟨_, -, same⟩
          cases same
        · rw [atEnd, List.length_map]

/-- The updates of a link grow, while `recv` is not called. -/
structure Grows (link next : Link) : Prop where
  received : next.received = link.received
  updates : link.generator.updates <+: next.generator.updates

theorem Grows.refl (link : Link) : link.Grows link := ⟨rfl, List.prefix_refl _⟩

namespace Grows

variable {link next : Link}

theorem reported (grows : link.Grows next) :
    link.generator.reported <+: next.generator.reported :=
  grows.updates.filterMap _

theorem length_le (grows : link.Grows next) :
    link.generator.reported.length ≤ next.generator.reported.length :=
  grows.reported.length_le

theorem hasEnded (grows : link.Grows next) (ended : link.HasEnded) : next.HasEnded :=
  grows.updates.subset ended

theorem report_eq_some (grows : link.Grows next) {index : Nat} {report : IntervalReport}
    (found : link.report index = some report) : next.report index = some report := by
  rcases Option.map_eq_some_iff.mp found with ⟨original, original_found, rfl⟩
  rw [Link.report, grows.reported.getElem?_eq_some original_found]
  rfl

/-- A stream that has ended stays as it is. -/
theorem reported_of_hasEnded (grows : link.Grows next) (sound : next.Sound)
    (ended : link.HasEnded) : next.generator.reported = link.generator.reported := by
  rw [LoadGenerator.reported, sound.generator.updates_final grows.updates ended]
  rfl

end Grows

/-- It is known whether the stream has a report at every earlier position. -/
def Settled (link : Link) (rounds : Nat) : Prop :=
  rounds ≤ link.generator.reported.length ∨ link.HasEnded

theorem Settled.grow {link next : Link} {rounds : Nat} (settled : link.Settled rounds)
    (grows : link.Grows next) : next.Settled rounds :=
  settled.imp (fun long => long.trans grows.length_le) grows.hasEnded

theorem Settled.report {link next : Link} {rounds index : Nat} (settled : link.Settled rounds)
    (grows : link.Grows next) (sound : next.Sound) (earlier : index < rounds) :
    next.report index = link.report index := by
  rcases settled with long | ended
  · rcases Option.isSome_iff_exists.mp (report_isSome.mpr (earlier.trans_le long)) with
      ⟨report, found⟩
    rw [found]
    exact grows.report_eq_some found
  · rw [Link.report, grows.reported_of_hasEnded sound ended]
    rfl

/-- A started generator runs with the configuration of its link. -/
theorem Sound.started {link : Link} {handle : ReadyHandle} (sound : link.Sound)
    (positionEq : link.generator.position = .started handle) :
    ReadyHandle.machine.Reachable handle ∧ handle.profile = link.config.profile ∧
      handle.warmup = link.config.warmup := by
  have readSoFar := sound.generator.readSoFar
  rw [positionEq] at readSoFar
  rcases readSoFar with ⟨start, reachable, config, first, -, profile, warmup⟩
  have isStarted := sound.isStarted
    (List.mem_of_getElem? (sound.arrived.getElem?_eq_some start))
  have own := (LoadTestRunner.answeredReady_of_isStart sound (isStart_of_isStarted isStarted)).1
  rw [first] at own
  cases own
  exact ⟨reachable, profile, warmup⟩

/-- The number of reports at fixed times. -/
def scheduledReports (link : Link) : Nat :=
  link.config.warmup.duration.toNat + link.config.warmup.pause.toNat +
    link.config.profile.steps.length

theorem Sound.scheduledReports_started {link : Link} {handle : ReadyHandle}
    (sound : link.Sound) (positionEq : link.generator.position = .started handle) :
    handle.scheduledReports = link.scheduledReports := by
  rcases sound.started positionEq with ⟨-, profile, warmup⟩
  rw [ReadyHandle.scheduledReports, scheduledReports, profile, warmup]

/-- No stream ends before all reports at fixed times. -/
theorem Sound.scheduled_of_hasEnded {link : Link} (sound : link.Sound)
    (ended : link.HasEnded) : link.scheduledReports ≤ link.generator.reported.length := by
  rcases LoadGenerator.exists_started (List.ne_nil_of_mem ended) with ⟨handle, positionEq⟩
  have reachable := (sound.started positionEq).1
  unfold HasEnded at ended
  rw [LoadGenerator.updates_of_started positionEq] at ended
  rw [← sound.scheduledReports_started positionEq, LoadGenerator.reported,
    LoadGenerator.updates_of_started positionEq]
  exact ReadyHandle.scheduled_of_finished reachable ended

/-- Where a report comes from. -/
theorem Sound.row {link : Link} {index : Nat} {report : IntervalReport} (sound : link.Sound)
    (found : link.report index = some report) :
    ∃ handle original, link.generator.position = .started handle ∧
      handle.reports[index]? = some original ∧ handle.RowAt index original ∧
        report = IntervalReport.codec.seen original := by
  rcases Option.map_eq_some_iff.mp found with ⟨original, inStream, rfl⟩
  have some : link.generator.updates ≠ [] := by
    intro none
    rw [LoadGenerator.reported, none] at inStream
    cases inStream
  rcases LoadGenerator.exists_started some with ⟨handle, positionEq⟩
  rw [LoadGenerator.reported, LoadGenerator.updates_of_started positionEq] at inStream
  have inReports := handle.reports_prefix.getElem?_eq_some inStream
  have wellReported := ReadyHandle.wellReported_of_reachable (sound.started positionEq).1
  exact ⟨handle, original, positionEq, inReports, wellReported.shaped index original inReports,
    rfl⟩

end Link

end CreoBench
