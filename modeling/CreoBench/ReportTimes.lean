import CreoBench.GeneratorStream
import CreoBench.Library.Binary64Rounding
import CreoBench.PacerRuns

/-!
# When reports are sent

The machine of a started generator is run here together with the account of each
of its pacer threads, and every report is noted with the moment at which its
sending begins.  Step reports wait for the announcement of the pacer and for the
deadline; drain reports wait for the end of a second that is chosen by reading
the clock.
-/

namespace CreoBench

namespace ReadyHandle

/-- What a report is about. -/
inductive ReportKind where
  | step (phase : Phase) (index : Nat)
  | pauseSecond (second : Nat)
  | drain
  deriving DecidableEq

/-- A report, the start that its target time is relative to and when its sending begins. -/
structure ReportNote where
  kind : ReportKind
  timeZero : LoadTestTime
  sentAt : Instant
  report : IntervalReport
  deriving DecidableEq

namespace ReportNote

/-- The report is sent no earlier than its target time. -/
def OnTime (note : ReportNote) : Prop :=
  note.timeZero.instant + note.report.targetTime.duration ≤ note.sentAt

/-- The target time of a drain report. -/
def drainTarget? (note : ReportNote) : Option Duration :=
  if note.kind = .drain then some note.report.targetTime.duration else none

end ReportNote

/-- The kind of the report that the reporter has just built and starts to send. -/
def noteOf (before after : ReadyHandle) : List ReportNote :=
  match before.reporter, after.reporter with
  | .sleepStep run done, .sending report _ =>
      [⟨.step run.phase done.index, run.timeZero, before.now, report⟩]
  | .loop (.pause pauseZero second), .sending report _ =>
      [⟨.pauseSecond second, pauseZero, before.now, report⟩]
  | .sleepDrain timeZero _, .sending report _ => [⟨.drain, timeZero, before.now, report⟩]
  | _, _ => []

/-- The pacer thread that the reporter has just spawned. -/
def spawned? (before after : ReadyHandle) : Option Pacer :=
  match before.reporter, after.reporter with
  | .warmup, .loop (.receive _) | .load, .loop (.receive _) => after.pacer
  | _, _ => none

/-- A generator with the accounts of its pacer threads and the notes on its reports. -/
structure ReportRun where
  handle : ReadyHandle
  pacing : Phase → Option PacerRun
  notes : List ReportNote

namespace ReportRun

def new (loadgeneratorId : LoadGeneratorId) (profile : LoadProfile) (warmup : Warmup)
    (now : Instant) : ReportRun :=
  ⟨.new loadgeneratorId profile warmup now, fun _ => none, []⟩

/-- The accounts after an event that leads to `next`. -/
def advance (run : ReportRun) (next : ReadyHandle) : Event → Option (Phase → Option PacerRun)
  | .pace gaps =>
      (run.pacing run.handle.phase).bind fun paced =>
        (paced.step run.handle.loadgeneratorId
          ⟨run.handle.now, gaps, run.handle.reporter = .failed⟩).map fun paced =>
            Function.update run.pacing run.handle.phase (some paced)
  | _ =>
      match spawned? run.handle next with
      | some pacer => some (Function.update run.pacing next.phase (some (.start pacer)))
      | none => some run.pacing

def machine : Machine ReportRun Event where
  initial run := ∃ loadgeneratorId profile warmup now,
    run = .new loadgeneratorId profile warmup now
  step run event :=
    (run.handle.step event).bind fun handle =>
      (run.advance handle event).map fun pacing =>
        ⟨handle, pacing, run.notes ++ noteOf run.handle handle⟩

end ReportRun

/-- The steps of a phase. -/
def StepsOf (handle : ReadyHandle) (phase : Phase) (steps : List ScheduledStep) : Prop :=
  match phase with
  | .warmup => steps = ScheduledStep.fromWarmup handle.warmup
  | .load => ScheduledStep.fromProfile handle.profile = some steps

/-- The kind of each report: the steps of the warmup, the seconds of the pause, the steps of the
profile, and then drain reports. -/
def kindAt (handle : ReadyHandle) (index : Nat) : ReportKind :=
  if index < handle.warmup.duration.toNat then .step .warmup index
  else if index < handle.reportsBeforePhase .load then
    .pauseSecond (index - handle.warmup.duration.toNat + 1)
  else if index < handle.scheduledReports then
    .step .load (index - handle.reportsBeforePhase .load)
  else .drain

/-! ## Seconds -/

/-- Up to here, seconds of the clock are exact binary64 numbers. -/
def ExactSeconds (now : Instant) : Prop := now < Duration.fromSecs (2 ^ 53 - 2)

theorem floorNat_asSecsF64 {duration : Nat} (small : duration < Duration.fromSecs (2 ^ 53 - 2)) :
    duration / Duration.nanosPerSec ≤ (Duration.asSecsF64 duration).floorNat ∧
      (Duration.asSecsF64 duration).floorNat + 1 < 2 ^ 53 := by
  have seconds : duration / Duration.nanosPerSec < 2 ^ 53 - 2 :=
    (Nat.div_lt_iff_lt_mul (by decide)).mpr small
  have fraction : (Binary64.div (Binary64.ofNat (duration % Duration.nanosPerSec))
      (Binary64.ofNat Duration.nanosPerSec)).units ≤ 2 ^ Binary64.unitExponent :=
    Binary64.units_div_ofNat_le (by decide) (Nat.mod_lt _ (by decide)).le (by decide)
  have upper : (Duration.asSecsF64 duration).floorNat ≤ duration / Duration.nanosPerSec + 1 :=
    Binary64.floorNat_add_le (by omega) fraction
  exact ⟨Binary64.le_floorNat_add (by omega) _, by omega⟩

theorem drainSecond_bounds (timeZero : LoadTestTime) {now : Instant} (exact : ExactSeconds now) :
    now < timeZero.instant + Duration.fromSecs (drainSecond timeZero now + 1) ∧
      drainSecond timeZero now + 1 < 2 ^ 53 := by
  have elapsed : now - timeZero.instant < Duration.fromSecs (2 ^ 53 - 2) :=
    (Nat.sub_le _ _).trans_lt exact
  obtain ⟨lower, small⟩ := floorNat_asSecsF64 elapsed
  have below : now - timeZero.instant < Duration.fromSecs (drainSecond timeZero now + 1) :=
    (Nat.div_lt_iff_lt_mul (by decide)).mp (Nat.lt_succ_of_le lower)
  exact ⟨lt_add_of_tsub_lt_left below, small⟩

/-- The target time of a drain round is a whole second after the clock was read. -/
theorem addDeadline_drainDeadline {timeZero targetTime : LoadTestTime} {now : Instant}
    (exact : ExactSeconds now)
    (added : timeZero.addDeadline (drainDeadline (drainSecond timeZero now)) = some targetTime) :
    targetTime = ⟨timeZero.instant + Duration.fromSecs (drainSecond timeZero now + 1)⟩ ∧
      now < timeZero.instant + Duration.fromSecs (drainSecond timeZero now + 1) := by
  obtain ⟨later, small⟩ := drainSecond_bounds timeZero exact
  have deadline : Duration.fromSecsF64 (drainDeadline (drainSecond timeZero now)).value =
      some (Duration.fromSecs (drainSecond timeZero now + 1)) := by
    have sum : (drainDeadline (drainSecond timeZero now)).value =
        Binary64.ofNat (1 + drainSecond timeZero now) := Binary64.add_ofNat (by omega)
    rw [sum, Nat.add_comm, Duration.fromSecsF64_ofNat (by omega)]
  constructor
  · obtain ⟨duration, durationEq, rfl⟩ := Option.map_eq_some_iff.mp added
    rw [deadline] at durationEq
    cases durationEq
    rfl
  · exact later

/-! ## Accounts and the reporter -/

/-- The phase that the reporter is running. -/
def Reporter.running? : Reporter → Option PhaseRun
  | .loop (.receive run) | .sending _ (.receive run) | .sleepStep run _ => some run
  | _ => none

/-- The pacer thread of the load phase is not yet there. -/
def Reporter.isBeforeLoad : Reporter → Bool
  | .warmup | .load | .loop (.pause _ _) | .sending _ (.pause _ _) => true
  | .loop (.receive run) | .sending _ (.receive run) | .sleepStep run _ => run.phase = .warmup
  | _ => false

@[simp]
theorem running?_sending (report : IntervalReport) (head : LoopHead) :
    (Reporter.sending report head).running? = (Reporter.loop head).running? := by
  cases head <;> rfl

@[simp]
theorem isBeforeLoad_sending (report : IntervalReport) (head : LoopHead) :
    (Reporter.sending report head).isBeforeLoad = (Reporter.loop head).isBeforeLoad := by
  cases head <;> rfl

theorem running?_afterPhase (handle : ReadyHandle) (run : PhaseRun) :
    (Reporter.loop (handle.afterPhase run)).running? = none := by
  unfold afterPhase
  cases run.phase <;> rfl

theorem isBeforeLoad_afterPhase (handle : ReadyHandle) (run : PhaseRun) :
    (Reporter.loop (handle.afterPhase run)).isBeforeLoad = decide (run.phase = .warmup) := by
  unfold afterPhase
  cases run.phase <;> rfl

namespace ReportRun

/-- The accounts belong to the pacer threads of the generator. -/
structure Linked (run : ReportRun) : Prop where
  reached : ∀ phase paced, run.pacing phase = some paced →
    ∃ steps, run.handle.StepsOf phase steps ∧
      (PacerRun.machine run.handle.loadgeneratorId steps paced.pacer.timeZero).Reachable paced
  current : ∀ pacer, run.handle.pacer = some pacer →
    ∃ paced, run.pacing run.handle.phase = some paced ∧ paced.pacer = pacer ∧
      paced.refused = none ∧ paced.clock ≤ run.handle.now
  channel : ∀ done ∈ run.handle.stepsDone,
    ∃ paced, run.pacing run.handle.phase = some paced ∧ done ∈ paced.announced
  running : ∀ phaseRun, run.handle.reporter.running? = some phaseRun →
    ∃ paced, run.pacing phaseRun.phase = some paced ∧
      paced.pacer.timeZero = phaseRun.timeZero
  sleeping : ∀ phaseRun done, run.handle.reporter = .sleepStep phaseRun done →
    ∃ paced, run.pacing phaseRun.phase = some paced ∧ done ∈ paced.announced
  noWarmup : run.handle.reporter = .warmup → run.pacing .warmup = none
  noLoad : run.handle.reporter.isBeforeLoad → run.pacing .load = none

/-- Accounts only grow. -/
def Grows (before after : Phase → Option PacerRun) : Prop :=
  ∀ phase paced, before phase = some paced → ∃ paced', after phase = some paced' ∧
    paced'.pacer.timeZero = paced.pacer.timeZero ∧ ∀ done ∈ paced.announced, done ∈ paced'.announced

theorem grows_spawn {pacing : Phase → Option PacerRun} {phase : Phase} (isNew : pacing phase = none)
    (paced : PacerRun) : Grows pacing (Function.update pacing phase (some paced)) := by
  intro other old found
  have differ : other ≠ phase := by
    rintro rfl
    rw [isNew] at found
    cases found
  exact ⟨old, by rw [Function.update_of_ne differ, found], rfl, fun _ member => member⟩

theorem Grows.refl (pacing : Phase → Option PacerRun) : Grows pacing pacing :=
  fun _ paced found => ⟨paced, found, rfl, fun _ member => member⟩

theorem grows_update {pacing : Phase → Option PacerRun} {phase : Phase} {paced paced' : PacerRun}
    (found : pacing phase = some paced) (kept : paced'.pacer.timeZero = paced.pacer.timeZero)
    (announced : ∀ done ∈ paced.announced, done ∈ paced'.announced) :
    Grows pacing (Function.update pacing phase (some paced')) := by
  intro other old otherEq
  by_cases same : other = phase
  · subst same
    rw [found] at otherEq
    cases otherEq
    exact ⟨paced', Function.update_self .., kept, announced⟩
  · exact ⟨old, by rw [Function.update_of_ne same, otherEq], rfl, fun _ member => member⟩

/-- What has been announced stays announced. -/
theorem Grows.announced {before after : Phase → Option PacerRun} (grows : Grows before after)
    {phase : Phase} {done : StepDone}
    (announced : ∃ paced, before phase = some paced ∧ done ∈ paced.announced) :
    ∃ paced, after phase = some paced ∧ done ∈ paced.announced := by
  obtain ⟨paced, found, member⟩ := announced
  obtain ⟨grown, grownEq, -, more⟩ := grows phase paced found
  exact ⟨grown, grownEq, more done member⟩

theorem step_eq_some {run next : ReportRun} {event : Event}
    (stepped : machine.step run event = some next) :
    run.handle.step event = some next.handle ∧
      run.advance next.handle event = some next.pacing ∧
        next.notes = run.notes ++ noteOf run.handle next.handle := by
  simp only [machine, Option.bind_eq_some_iff, Option.map_eq_some_iff] at stepped
  obtain ⟨handle, moved, pacing, advanced, rfl⟩ := stepped
  exact ⟨moved, advanced, rfl⟩

/-- The generator takes steps of its own. -/
theorem handle_of_reachable {allowed : ReportRun → Event → Prop} {run : ReportRun}
    (reachable : machine.ReachableBy allowed run) : ReadyHandle.machine.Reachable run.handle := by
  apply reachable.project ReportRun.handle
  · rintro _ ⟨loadgeneratorId, profile, warmup, now, rfl⟩
    exact ⟨loadgeneratorId, profile, warmup, now, rfl⟩
  · intro run event next _ stepped
    exact .inr ⟨event, trivial, (step_eq_some stepped).1⟩

end ReportRun

section

variable {before after : ReadyHandle}

theorem noteOf_of_same (same : after.reporter = before.reporter) : noteOf before after = [] := by
  unfold noteOf
  rw [same]
  split <;> simp_all

theorem spawned?_of_same (same : after.reporter = before.reporter) :
    spawned? before after = none := by
  unfold spawned?
  rw [same]
  split <;> simp_all

theorem noteOf_of_failed (failed : after.reporter = .failed) : noteOf before after = [] := by
  unfold noteOf
  rw [failed]
  split <;> simp_all

theorem spawned?_of_failed (failed : after.reporter = .failed) :
    spawned? before after = none := by
  unfold spawned?
  rw [failed]
  split <;> simp_all

end

/-- A step that leaves the pacer thread to itself. -/
structure SamePacer (handle next : ReadyHandle) : Prop where
  loadgeneratorId : next.loadgeneratorId = handle.loadgeneratorId
  profile : next.profile = handle.profile
  warmup : next.warmup = handle.warmup
  phase : next.phase = handle.phase
  pacer : ∀ pacer, next.pacer = some pacer → handle.pacer = some pacer
  channel : ∀ done ∈ next.stepsDone, done ∈ handle.stepsDone
  clock : handle.now ≤ next.now

/-- Most steps of the reporter are of this kind. -/
theorem SamePacer.of_reporter (handle : ReadyHandle) (tracker : Tracker) (tasks : List Task)
    (reporter : Reporter) (sent : List GeneratorUpdate) (history : History) :
    handle.SamePacer { handle with tracker, tasks, reporter, sent, history } :=
  ⟨rfl, rfl, rfl, rfl, fun _ found => found, fun _ member => member, Nat.le_refl _⟩

theorem StepsOf.congr {handle next : ReadyHandle} {phase : Phase} {steps : List ScheduledStep}
    (stepsOf : handle.StepsOf phase steps) (profile : next.profile = handle.profile)
    (warmup : next.warmup = handle.warmup) : next.StepsOf phase steps := by
  unfold StepsOf at stepsOf ⊢
  rw [profile, warmup]
  exact stepsOf

namespace ReportRun

variable {run : ReportRun} {next : ReadyHandle} {notes : List ReportNote}

/-- The accounts stay as they are. -/
theorem Linked.keep (linked : run.Linked) (same : run.handle.SamePacer next)
    (running : ∀ phaseRun, next.reporter.running? = some phaseRun →
      run.handle.reporter.running? = some phaseRun)
    (sleeping : ∀ phaseRun done, next.reporter = .sleepStep phaseRun done →
      ∃ paced, run.pacing phaseRun.phase = some paced ∧ done ∈ paced.announced)
    (noWarmup : next.reporter = .warmup → run.handle.reporter = .warmup)
    (noLoad : next.reporter.isBeforeLoad → run.handle.reporter.isBeforeLoad) :
    Linked ⟨next, run.pacing, notes⟩ := by
  constructor
  · intro phase paced found
    obtain ⟨steps, stepsOf, reached⟩ := linked.reached phase paced found
    rw [← same.loadgeneratorId] at reached
    exact ⟨steps, stepsOf.congr same.profile same.warmup, reached⟩
  · intro pacer pacerEq
    obtain ⟨paced, found, pacerEq, unrefused, clock⟩ :=
      linked.current pacer (same.pacer pacer pacerEq)
    rw [← same.phase] at found
    exact ⟨paced, found, pacerEq, unrefused, clock.trans same.clock⟩
  · intro done member
    obtain ⟨paced, found, announced⟩ := linked.channel done (same.channel done member)
    rw [← same.phase] at found
    exact ⟨paced, found, announced⟩
  · exact fun phaseRun runningEq => linked.running phaseRun (running phaseRun runningEq)
  · exact sleeping
  · exact fun atWarmup => linked.noWarmup (noWarmup atWarmup)
  · exact fun beforeLoad => linked.noLoad (noLoad beforeLoad)

/-- The reporter moves on, but not to sleep until the end of a step. -/
theorem Linked.goto (linked : run.Linked) (same : run.handle.SamePacer next)
    (awake : ∀ phaseRun done, next.reporter ≠ .sleepStep phaseRun done)
    (notWarmup : next.reporter ≠ .warmup)
    (running : next.reporter.running? = none ∨
      next.reporter.running? = run.handle.reporter.running?)
    (beforeLoad : next.reporter.isBeforeLoad → run.handle.reporter.isBeforeLoad) :
    Linked ⟨next, run.pacing, notes⟩ := by
  apply linked.keep same
  · intro phaseRun runningEq
    rcases running with gone | kept
    · rw [gone] at runningEq
      cases runningEq
    · rw [← kept]
      exact runningEq
  · exact fun phaseRun done asleep => absurd asleep (awake phaseRun done)
  · exact fun atWarmup => absurd atWarmup notWarmup
  · exact beforeLoad

/-- The reporter spawns the pacer thread of a phase that has none yet. -/
theorem Linked.spawn (linked : run.Linked) {phase : Phase} {steps : List ScheduledStep}
    {loadLevels : List UInt32} (stepsOf : run.handle.StepsOf phase steps)
    (isNew : run.pacing phase = none) (noLoad : phase = .warmup → run.pacing .load = none) :
    Linked ⟨run.handle.runPhase phase steps loadLevels,
      Function.update run.pacing phase (some (.start (.new steps ⟨run.handle.now⟩))), notes⟩ := by
  constructor
  · intro other paced found
    by_cases same : other = phase
    · subst same
      dsimp only at found
      rw [Function.update_self] at found
      cases found
      exact ⟨steps, stepsOf.congr rfl rfl, .start rfl⟩
    · dsimp only at found
      rw [Function.update_of_ne same] at found
      obtain ⟨steps, stepsOf, reached⟩ := linked.reached other paced found
      exact ⟨steps, stepsOf.congr rfl rfl, reached⟩
  · rintro _ ⟨⟩
    exact ⟨_, Function.update_self .., rfl, rfl, Nat.zero_le _⟩
  · intro done member
    cases member
  · rintro _ ⟨⟩
    exact ⟨_, Function.update_self .., rfl⟩
  · rintro _ _ ⟨⟩
  · rintro ⟨⟩
  · intro beforeLoad
    have atWarmup : phase = .warmup := of_decide_eq_true beforeLoad
    subst atWarmup
    have other : Phase.load ≠ Phase.warmup := by decide
    dsimp only
    rw [Function.update_of_ne other]
    exact noLoad rfl

theorem Linked.report (linked : run.Linked) (aligned : run.handle.Aligned)
    (reported : run.handle.report = some next)
    {pacing : Phase → Option PacerRun} (advanced : run.advance next .report = some pacing) :
    Linked ⟨next, pacing, notes⟩ ∧ Grows run.pacing pacing := by
  have step := report_cases reported
  unfold advance at advanced
  cases step with
  | startWarmup reporterEq =>
      have spawned : spawned? run.handle (run.handle.runPhase .warmup
          (ScheduledStep.fromWarmup run.handle.warmup)
          (List.replicate (ScheduledStep.fromWarmup run.handle.warmup).length
            run.handle.warmup.rate)) =
          some (.new (ScheduledStep.fromWarmup run.handle.warmup) ⟨run.handle.now⟩) := by
        simp [spawned?, reporterEq, runPhase]
      simp only [spawned] at advanced
      cases advanced
      have isNew := linked.noWarmup reporterEq
      have noLoad := linked.noLoad (by rw [reporterEq]; rfl)
      exact ⟨linked.spawn rfl isNew fun _ => noLoad, grows_spawn isNew _⟩
  | @startLoad steps reporterEq converted =>
      have spawned : spawned? run.handle
          (run.handle.runPhase .load steps (run.handle.profile.steps.map (·.count))) =
          some (.new steps ⟨run.handle.now⟩) := by
        simp [spawned?, reporterEq, runPhase]
      simp only [spawned] at advanced
      cases advanced
      have isNew := linked.noLoad (by rw [reporterEq]; rfl)
      exact ⟨linked.spawn converted isNew (by rintro ⟨⟩), grows_spawn isNew _⟩
  | @stepReceived phaseRun done stepsDone reporterEq channel =>
      simp only [spawned?, reporterEq] at advanced
      cases advanced
      refine ⟨?_, Grows.refl _⟩
      have same : run.handle.SamePacer
          { run.handle with stepsDone, reporter := .sleepStep phaseRun done } := by
        refine ⟨rfl, rfl, rfl, rfl, fun _ found => found, ?_, Nat.le_refl _⟩
        intro other member
        rw [channel]
        exact List.mem_cons_of_mem _ member
      apply linked.keep same
      · rintro _ ⟨⟩
        rw [reporterEq]
        rfl
      · rintro _ _ ⟨⟩
        have phaseEq : run.handle.phase = phaseRun.phase := by
          rw [Aligned, reporterEq] at aligned
          obtain ⟨received, -, running⟩ := aligned
          exact running.phase
        rw [← phaseEq]
        exact linked.channel done (by rw [channel]; exact List.mem_cons_self)
      · rintro ⟨⟩
      · rw [reporterEq]
        exact id
  | @phaseEnded phaseRun pacer reporterEq =>
      simp only [spawned?, reporterEq] at advanced
      cases advanced
      refine ⟨linked.goto (.of_reporter ..) ?_ ?_ (.inl (running?_afterPhase _ _)) ?_, Grows.refl _⟩
      · rintro _ _ ⟨⟩
      · rintro ⟨⟩
      · rw [isBeforeLoad_afterPhase, reporterEq]
        exact id
  | stepReported reporterEq | secondReported reporterEq | drainReported reporterEq =>
      simp only [spawned?, reporterEq] at advanced
      cases advanced
      refine ⟨linked.goto (.of_reporter ..) ?_ ?_ (.inr ?_) ?_, Grows.refl _⟩
      · rintro _ _ ⟨⟩
      · rintro ⟨⟩
      · rw [reporterEq]
        rfl
      · rw [reporterEq]
        exact id
  | sent reporterEq =>
      simp only [spawned?, reporterEq] at advanced
      cases advanced
      refine ⟨linked.goto (.of_reporter ..) ?_ ?_ (.inr ?_) ?_, Grows.refl _⟩
      · rintro _ _ ⟨⟩
      · rintro ⟨⟩
      · rw [reporterEq, running?_sending]
      · rw [reporterEq, isBeforeLoad_sending]
        exact id
  | pauseEnded reporterEq | inflight reporterEq | drained reporterEq | clockRead reporterEq
  | finished reporterEq =>
      simp only [spawned?, reporterEq] at advanced
      cases advanced
      refine ⟨linked.goto (.of_reporter ..) ?_ ?_ (.inl rfl) ?_, Grows.refl _⟩
      · rintro _ _ ⟨⟩
      · rintro ⟨⟩
      · rw [reporterEq]
        exact id
  | panicked =>
      rw [spawned?_of_failed rfl] at advanced
      cases advanced
      refine ⟨linked.goto (.of_reporter ..) ?_ ?_ (.inl rfl) ?_, Grows.refl _⟩
      · rintro _ _ ⟨⟩
      · rintro ⟨⟩
      · rintro ⟨⟩

end ReportRun

/-- A step of the pacer thread and what it leaves alone. -/
theorem pace_eq_some {handle next : ReadyHandle} {gaps : List Duration}
    (paced : handle.pace gaps = some next) :
    ∃ pacer pacer' effect, handle.pacer = some pacer ∧
      pacer.step handle.loadgeneratorId handle.now gaps = some (pacer', effect) ∧
        handle.SameReports next ∧ next.loadgeneratorId = handle.loadgeneratorId ∧
          next.phase = handle.phase ∧ next.now = handle.now ∧
            ((effect.done?.isSome ∧ handle.reporter = .failed ∧ next.pacer = none ∧
                next.stepsDone = handle.stepsDone) ∨
              (¬(effect.done?.isSome ∧ handle.reporter = .failed) ∧ next.pacer = some pacer' ∧
                next.stepsDone = handle.stepsDone ++ effect.done?.toList)) := by
  have same := sameReports_pace paced
  unfold pace at paced
  split at paced
  · cases paced
  · rename_i pacer pacerEq
    split at paced
    · cases paced
    · rename_i pacer' stepped
      cases paced
      refine ⟨pacer, pacer', .quiet, pacerEq, stepped, same, rfl, rfl, rfl, .inr ?_⟩
      simp [PacerEffect.done?]
    · rename_i pacer' done stepped
      split_ifs at paced with failed
      · cases paced
        exact ⟨pacer, pacer', .stepDone done, pacerEq, stepped, same, rfl, rfl, rfl,
          .inl ⟨rfl, failed, rfl, rfl⟩⟩
      · cases paced
        refine ⟨pacer, pacer', .stepDone done, pacerEq, stepped, same, rfl, rfl, rfl, .inr ?_⟩
        simp [PacerEffect.done?, failed]
    · rename_i pacer' transaction stepped
      cases paced
      refine ⟨pacer, pacer', .dispatch transaction, pacerEq, stepped, same, rfl, rfl, rfl, .inr ?_⟩
      simp [PacerEffect.done?]

namespace ReportRun

variable {run : ReportRun} {next : ReadyHandle} {notes : List ReportNote}

/-- The account takes the step of its pacer thread. -/
theorem Linked.pace (linked : run.Linked) {gaps : List Duration}
    (moved : run.handle.pace gaps = some next) {pacing : Phase → Option PacerRun}
    (advanced : run.advance next (.pace gaps) = some pacing) :
    Linked ⟨next, pacing, notes⟩ ∧ Grows run.pacing pacing := by
  obtain ⟨pacer, pacer', effect, pacerEq, stepped, same, generatorEq, phaseEq, nowEq, outcome⟩ :=
    pace_eq_some moved
  obtain ⟨paced, found, rfl, unrefused, clock⟩ := linked.current pacer pacerEq
  simp only [advance, found, Option.bind_some, Option.map_eq_some_iff] at advanced
  obtain ⟨paced', recorded, rfl⟩ := advanced
  obtain ⟨pacer'', effect', stepped', clock', -, record⟩ := PacerRun.step_eq_some recorded
  rw [stepped] at stepped'
  cases stepped'
  obtain ⟨kept, announced⟩ := PacerRun.grows_of_step recorded
  have grows := grows_update found kept announced
  have unchanged : ∀ phase, run.pacing phase = none →
      Function.update run.pacing run.handle.phase (some paced') phase = none := by
    intro phase isNone
    rw [Function.update_of_ne, isNone]
    rintro rfl
    rw [found] at isNone
    cases isNone
  refine ⟨?_, grows⟩
  constructor
  · intro phase other otherEq
    dsimp only at otherEq ⊢
    rw [generatorEq]
    by_cases samePhase : phase = run.handle.phase
    · subst samePhase
      rw [Function.update_self] at otherEq
      cases otherEq
      obtain ⟨steps, stepsOf, reached⟩ := linked.reached _ paced found
      rw [kept]
      exact ⟨steps, stepsOf.congr same.profile same.warmup, reached.step trivial recorded⟩
    · rw [Function.update_of_ne samePhase] at otherEq
      obtain ⟨steps, stepsOf, reached⟩ := linked.reached phase other otherEq
      exact ⟨steps, stepsOf.congr same.profile same.warmup, reached⟩
  · intro pacer pacerEq'
    dsimp only at pacerEq' ⊢
    rw [phaseEq]
    refine ⟨paced', Function.update_self .., ?_⟩
    rcases outcome with ⟨-, -, gone, -⟩ | ⟨sends, here, -⟩
    · rw [gone] at pacerEq'
      cases pacerEq'
    · rw [here] at pacerEq'
      cases pacerEq'
      rcases record with ⟨isDone, refused, -⟩ | ⟨-, pacerEq, unrefused, -⟩
      · exact absurd ⟨isDone, of_decide_eq_true refused⟩ sends
      · exact ⟨pacerEq, unrefused, by rw [clock', nowEq]⟩
  · intro done member
    dsimp only at member ⊢
    rw [phaseEq]
    rcases outcome with ⟨-, -, -, channelEq⟩ | ⟨sends, -, channelEq⟩
    · rw [channelEq] at member
      exact grows.announced (linked.channel done member)
    · rw [channelEq] at member
      rcases List.mem_append.mp member with old | new
      · exact grows.announced (linked.channel done old)
      · refine ⟨paced', Function.update_self .., ?_⟩
        rcases record with ⟨isDone, refused, -⟩ | ⟨-, -, -, announcedEq⟩
        · exact absurd ⟨isDone, of_decide_eq_true refused⟩ sends
        · rw [announcedEq]
          exact List.mem_append_right _ new
  · intro phaseRun runningEq
    dsimp only at runningEq
    rw [same.reporter] at runningEq
    obtain ⟨other, otherEq, timeZeroEq⟩ := linked.running phaseRun runningEq
    obtain ⟨grown, grownEq, keptZero, -⟩ := grows phaseRun.phase other otherEq
    exact ⟨grown, grownEq, keptZero.trans timeZeroEq⟩
  · intro phaseRun done sleeping
    dsimp only at sleeping
    rw [same.reporter] at sleeping
    exact grows.announced (linked.sleeping phaseRun done sleeping)
  · intro atWarmup
    dsimp only at atWarmup
    rw [same.reporter] at atWarmup
    exact unchanged .warmup (linked.noWarmup atWarmup)
  · intro beforeLoad
    dsimp only at beforeLoad
    rw [same.reporter] at beforeLoad
    exact unchanged .load (linked.noLoad beforeLoad)

theorem advance_of_quiet {event : Event} (notPace : ∀ gaps, event ≠ .pace gaps)
    (quiet : spawned? run.handle next = none) : run.advance next event = some run.pacing := by
  unfold advance
  split
  · exact absurd rfl (notPace _)
  · rw [quiet]

/-- Every step keeps the accounts linked, and they only grow. -/
theorem Linked.step {next : ReportRun} {event : Event} (linked : run.Linked)
    (aligned : run.handle.Aligned) (stepped : machine.step run event = some next) :
    next.Linked ∧ Grows run.pacing next.pacing := by
  obtain ⟨moved, advanced, -⟩ := step_eq_some stepped
  obtain ⟨handle, pacing, notes⟩ := next
  dsimp only at moved advanced ⊢
  cases event with
  | pace gaps => exact linked.pace moved advanced
  | report => exact linked.report aligned moved advanced
  | tick elapsed =>
      cases moved
      rw [advance_of_quiet] at advanced
      · cases advanced
        exact ⟨linked.keep ⟨rfl, rfl, rfl, rfl, fun _ found => found, fun _ member => member,
          Nat.le_add_right _ _⟩ (fun _ => id) linked.sleeping id id, Grows.refl _⟩
      · rintro _ ⟨⟩
      · exact spawned?_of_same rfl
  | sendFails =>
      obtain rfl := sendFails_eq_some moved
      rw [advance_of_quiet] at advanced
      · cases advanced
        refine ⟨linked.goto (.of_reporter ..) ?_ ?_ (.inl rfl) ?_, Grows.refl _⟩
        · rintro _ _ ⟨⟩
        · rintro ⟨⟩
        · rintro ⟨⟩
      · rintro _ ⟨⟩
      · exact spawned?_of_failed rfl
  | complete index outcome finishedAt =>
      obtain ⟨task, -, rfl⟩ := complete_eq_some moved
      rw [advance_of_quiet] at advanced
      · cases advanced
        exact ⟨linked.keep (.of_reporter ..) (fun _ => id) linked.sleeping id id, Grows.refl _⟩
      · rintro _ ⟨⟩
      · exact spawned?_of_same rfl

theorem linked_new (loadgeneratorId : LoadGeneratorId) (profile : LoadProfile) (warmup : Warmup)
    (now : Instant) : (new loadgeneratorId profile warmup now).Linked := by
  constructor
  · rintro _ _ ⟨⟩
  · rintro _ ⟨⟩
  · intro done member
    cases member
  · rintro _ ⟨⟩
  · rintro _ _ ⟨⟩
  · exact fun _ => rfl
  · exact fun _ => rfl

theorem linked_of_reachable {allowed : ReportRun → Event → Prop}
    (reachable : machine.ReachableBy allowed run) : run.Linked := by
  have known : ∀ run, machine.Reachable run → run.handle.Aligned := fun _ reached =>
    (wellReported_of_reachable (handle_of_reachable reached)).aligned
  apply reachable.invariant_of_known known
  · rintro _ ⟨loadgeneratorId, profile, warmup, now, rfl⟩
    exact linked_new loadgeneratorId profile warmup now
  · exact fun _ _ _ aligned linked _ stepped => (linked.step aligned stepped).1

end ReportRun

end ReadyHandle

end CreoBench
