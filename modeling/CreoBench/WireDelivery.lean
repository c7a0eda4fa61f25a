import CreoBench.WireCodecs

/-!
# What arrives of a message

Messages without times arrive as they were sent.  A report arrives with its measured
durations cut to whole milliseconds, provided that every relative time in it returns
from the conversion into seconds and back.
-/

namespace CreoBench

open SerdeCodec

section Configuration

variable {Mark : Type} {Fatal : Mark → Prop}

theorem LoadStepDeadline.delivers (deadline : LoadStepDeadline) :
    (LoadStepDeadline.codec : Codec SerdeError Fatal LoadStepDeadline).Delivers
      deadline deadline :=
  .imap rfl (.mapFailures (delivers_f64 deadline.value)) rfl

theorem LoadStep.delivers (step : LoadStep) :
    (LoadStep.codec : Codec SerdeError Fatal LoadStep).Delivers step step :=
  .imap rfl (.pair (.mapFailures step.deadline.delivers) (.mapFailures (delivers_u32 step.count)))
    rfl

theorem LoadProfile.delivers (profile : LoadProfile) :
    (LoadProfile.codec : Codec SerdeError Fatal LoadProfile).Delivers profile profile :=
  .imap rfl (.mapFailures (delivers_sequence fun step _ => step.delivers))
    (by rw [List.map_id'])

theorem Warmup.delivers (warmup : Warmup) :
    (Warmup.codec : Codec SerdeError Fatal Warmup).Delivers warmup warmup :=
  .imap rfl (.pair (.mapFailures (delivers_u32 warmup.rate)) <|
    .pair (.mapFailures (delivers_u32 warmup.duration)) <|
    .mapFailures (delivers_u32 warmup.pause)) rfl

theorem ServiceRegistry.delivers (registry : ServiceRegistry) :
    (ServiceRegistry.codec : Codec SerdeError Fatal ServiceRegistry).Delivers
      registry registry :=
  .imap rfl (delivers_map registry.services) rfl

theorem LoadGeneratorId.delivers (id : LoadGeneratorId) :
    (LoadGeneratorId.codec : Codec SerdeError Fatal LoadGeneratorId).Delivers id id :=
  .imap rfl (.mapFailures (delivers_u8 id.value)) rfl

theorem LoadGeneratorConfig.delivers (config : LoadGeneratorConfig) :
    (LoadGeneratorConfig.codec : Codec SerdeError Fatal LoadGeneratorConfig).Delivers
      config config :=
  .imap rfl (.pair (.mapFailures config.profile.delivers) <|
    .pair (.mapFailures (delivers_string config.script)) <|
    .pair (.mapFailures config.registry.delivers) <|
    .pair (.mapFailures config.warmup.delivers) <|
    .pair (.mapFailures (delivers_u32 config.virtualUserCount)) <|
    .pair (.mapFailures (delivers_u64 config.seed)) <|
    .pair (.mapFailures (delivers_u64 config.timeoutMs)) <|
    .mapFailures config.loadGeneratorId.delivers) rfl

theorem ConfigMessage.delivers (message : ConfigMessage) :
    (ConfigMessage.codec : Codec SerdeError Fatal ConfigMessage).Delivers message message := by
  cases message with
  | config content =>
      exact delivers_enum rfl (.restrict rfl (.mapFailures content.delivers) rfl)
  | abort => exact delivers_enum rfl (.restrict rfl ⟨trivial, rfl⟩ rfl)

theorem GeneratorInfo.delivers (info : GeneratorInfo) :
    (GeneratorInfo.codec : Codec SerdeError Fatal GeneratorInfo).Delivers info info :=
  .imap rfl (.pair (.mapFailures (delivers_string info.version)) <|
    .pair (.mapFailures (delivers_string info.os)) <|
    .pair (.mapFailures (delivers_string info.arch)) <|
    .pair (.mapFailures (delivers_u32 info.cores)) <|
    .mapFailures (delivers_u32 info.workerThreads)) rfl

theorem ConfigResponse.delivers (response : ConfigResponse) :
    (ConfigResponse.codec : Codec SerdeError Fatal ConfigResponse).Delivers
      response response := by
  cases response with
  | ready info => exact delivers_enum rfl (.restrict rfl (.mapFailures info.delivers) rfl)
  | setupFailed reason =>
      exact delivers_enum rfl (.restrict rfl (.mapFailures (delivers_string reason)) rfl)
  | aborted => exact delivers_enum rfl (.restrict rfl ⟨trivial, rfl⟩ rfl)

theorem Command.delivers (command : Command) :
    (Command.codec : Codec SerdeError Fatal Command).Delivers command command := by
  cases command <;> exact delivers_enum rfl (.restrict rfl ⟨trivial, rfl⟩ rfl)

end Configuration

/-- The conversion into seconds and back returns the same time. -/
def RelativeLoadTestTime.Returns (time : RelativeLoadTestTime) : Prop :=
  Duration.fromSecsF64 time.duration.asSecsF64 = some time.duration

theorem RelativeLoadTestTime.Returns.delivers {time : RelativeLoadTestTime} (returns : time.Returns) :
    RelativeLoadTestTime.codec.Delivers time time := by
  exact .imap rfl (.convert returns) rfl

namespace DurationMeasurement

variable {Kind : Type}

def MillisFit (measurement : DurationMeasurement Kind) : Prop :=
  Duration.asMillis measurement.inner < 2 ^ 64

/-- A measured duration in whole milliseconds. -/
def truncateMillis (measurement : DurationMeasurement Kind) : DurationMeasurement Kind :=
  ⟨Duration.fromMillis (Duration.asMillis measurement.inner)⟩

theorem MillisFit.delivers {measurement : DurationMeasurement Kind} (fit : measurement.MillisFit) :
    codec.Delivers measurement measurement.truncateMillis := by
  refine .restrict (if_pos fit) (delivers_u64 _) ?_
  rw [UInt64.toNat_ofNat_of_lt' fit]
  rfl

end DurationMeasurement

theorem DroppedCode.delivers (code : DroppedCode) : codec.Delivers code code := by
  cases code with
  | noVirtualUser => exact delivers_enum rfl (.restrict rfl ⟨trivial, rfl⟩ rfl)
  | late => exact delivers_enum rfl (.restrict rfl ⟨trivial, rfl⟩ rfl)
  | error message =>
      exact delivers_enum rfl (.restrict rfl (.mapFailures (delivers_string message)) rfl)

theorem FailedCode.delivers (code : FailedCode) : codec.Delivers code code := by
  cases code with
  | send message | extract message =>
      exact delivers_enum rfl (.restrict rfl (.mapFailures (delivers_string message)) rfl)
  | status code => exact delivers_enum rfl (.restrict rfl (.mapFailures (delivers_u16 code)) rfl)

theorem TimeoutCode.delivers (code : TimeoutCode) : codec.Delivers code code := by
  cases code with
  | error message => exact delivers_enum rfl ⟨fun _ _ => trivial, rfl⟩

theorem VirtualUserId.delivers (id : VirtualUserId) : codec.Delivers id id :=
  .imap rfl (.mapFailures (delivers_u32 id.value)) rfl

theorem SpecId.delivers (id : SpecId) : codec.Delivers id id :=
  .imap rfl (.mapFailures (delivers_u64 id.value)) rfl

theorem DroppedMetadata.delivers {metadata : DroppedMetadata}
    (start : metadata.startTime.Returns) (target : metadata.targetTime.Returns) :
    codec.Delivers metadata metadata :=
  .imap rfl (.pair (.mapFailures (delivers_option fun id _ => id.delivers)) <|
    .pair (.mapFailures metadata.loadgeneratorId.delivers) <|
    .pair (.mapFailures start.delivers) <| .mapFailures target.delivers)
    (by rw [Option.map_id'])

theorem ResultMetadata.delivers {metadata : ResultMetadata}
    (start : metadata.startTime.Returns) (send : metadata.sendTime.Returns)
    (target : metadata.targetTime.Returns) : codec.Delivers metadata metadata :=
  .imap rfl (.pair (.mapFailures metadata.specId.delivers) <|
    .pair (.mapFailures metadata.virtualUserId.delivers) <|
    .pair (.mapFailures metadata.loadgeneratorId.delivers) <|
    .pair (.mapFailures start.delivers) <| .pair (.mapFailures send.delivers) <|
    .mapFailures target.delivers) rfl

namespace TransactionResult

/-- The relative times in a result. -/
def relativeTimes : TransactionResult → List RelativeLoadTestTime
  | .success metadata _ _ | .failed metadata _ _ _ | .timeout metadata _ _ _ =>
      [metadata.startTime, metadata.sendTime, metadata.targetTime]
  | .dropped metadata _ _ => [metadata.startTime, metadata.targetTime]

def MillisFit : TransactionResult → Prop
  | .success _ responseTime serviceTime | .failed _ responseTime serviceTime _
  | .timeout _ responseTime serviceTime _ => responseTime.MillisFit ∧ serviceTime.MillisFit
  | .dropped _ responseTime _ => responseTime.MillisFit

/-- A result with its measured durations in whole milliseconds. -/
def truncateMillis : TransactionResult → TransactionResult
  | .success metadata responseTime serviceTime =>
      .success metadata responseTime.truncateMillis serviceTime.truncateMillis
  | .failed metadata responseTime serviceTime code =>
      .failed metadata responseTime.truncateMillis serviceTime.truncateMillis code
  | .timeout metadata responseTime serviceTime code =>
      .timeout metadata responseTime.truncateMillis serviceTime.truncateMillis code
  | .dropped metadata responseTime code =>
      .dropped metadata responseTime.truncateMillis code

theorem delivers {result : TransactionResult}
    (returning : ∀ time ∈ result.relativeTimes, time.Returns) (fit : result.MillisFit) :
    codec.Delivers result result.truncateMillis := by
  cases result with
  | success metadata responseTime serviceTime =>
      simp only [relativeTimes, List.forall_mem_cons, List.not_mem_nil] at returning
      exact delivers_enum rfl (.restrict rfl (.pair
        (.mapFailures (ResultMetadata.delivers returning.1 returning.2.1 returning.2.2.1)) <|
        .pair (.mapFailures fit.1.delivers) <| .mapFailures fit.2.delivers) rfl)
  | failed metadata responseTime serviceTime code =>
      simp only [relativeTimes, List.forall_mem_cons, List.not_mem_nil] at returning
      exact delivers_enum rfl (.restrict rfl (.pair
        (.mapFailures (ResultMetadata.delivers returning.1 returning.2.1 returning.2.2.1)) <|
        .pair (.mapFailures fit.1.delivers) <| .pair (.mapFailures fit.2.delivers) <|
        .mapFailures code.delivers) rfl)
  | timeout metadata responseTime serviceTime code =>
      simp only [relativeTimes, List.forall_mem_cons, List.not_mem_nil] at returning
      exact delivers_enum rfl (.restrict rfl (.pair
        (.mapFailures (ResultMetadata.delivers returning.1 returning.2.1 returning.2.2.1)) <|
        .pair (.mapFailures fit.1.delivers) <| .pair (.mapFailures fit.2.delivers) <|
        .mapFailures code.delivers) rfl)
  | dropped metadata responseTime code =>
      simp only [relativeTimes, List.forall_mem_cons, List.not_mem_nil] at returning
      exact delivers_enum rfl (.restrict rfl (.pair
        (.mapFailures (DroppedMetadata.delivers returning.1 returning.2.1)) <|
        .pair (.mapFailures fit.delivers) <| .mapFailures code.delivers) rfl)

end TransactionResult

namespace IntervalReport

def relativeTimes (report : IntervalReport) : List RelativeLoadTestTime :=
  report.targetTime :: report.finalBatchTime.toList ++
    report.results.flatMap (·.relativeTimes)

def MillisFit (report : IntervalReport) : Prop :=
  ∀ result ∈ report.results, result.MillisFit

def truncateMillis (report : IntervalReport) : IntervalReport :=
  { report with
    stats.transactionResults := report.stats.transactionResults.map (·.truncateMillis) }

theorem delivers {report : IntervalReport}
    (returning : ∀ time ∈ report.relativeTimes, time.Returns) (fit : report.MillisFit) :
    codec.Delivers report report.truncateMillis := by
  have target := returning report.targetTime (by simp [relativeTimes])
  have batch : ∀ time, report.finalBatchTime = some time → time.Returns := fun time found =>
    returning time (by simp [relativeTimes, found])
  have results : ∀ result ∈ report.stats.transactionResults,
      TransactionResult.codec.Delivers result result.truncateMillis := fun result member =>
    TransactionResult.delivers (fun time inResult => returning time (by
      simp only [relativeTimes, List.mem_append, List.mem_flatMap]
      exact .inr ⟨result, member, inResult⟩)) (fit result member)
  refine .imap rfl (.pair (.mapFailures target.delivers) <|
    .pair (.mapFailures (delivers_u32 report.loadLevel)) <|
    .pair (.mapFailures (.imap rfl (.pair (.mapFailures (delivers_u64 _)) <|
      .pair (.mapFailures (delivers_u64 _)) <| .pair (.mapFailures (delivers_u64 _)) <|
      .pair (.mapFailures (delivers_u64 _)) <| .pair (.mapFailures (delivers_u64 _)) <|
      .pair (.mapFailures (delivers_u64 _)) <|
      .mapFailures (delivers_sequence results)) rfl)) <|
    .mapFailures (delivers_option fun time found => (batch time found).delivers)) ?_
  rw [Option.map_id']
  rfl

end IntervalReport

namespace GeneratorUpdate

def relativeTimes : GeneratorUpdate → List RelativeLoadTestTime
  | .intervalReport report => report.relativeTimes
  | .finished => []

def MillisFit : GeneratorUpdate → Prop
  | .intervalReport report => report.MillisFit
  | .finished => True

/-- An update with its measured durations in whole milliseconds. -/
def truncateMillis : GeneratorUpdate → GeneratorUpdate
  | .intervalReport report => .intervalReport report.truncateMillis
  | .finished => .finished

theorem delivers {update : GeneratorUpdate}
    (returning : ∀ time ∈ update.relativeTimes, time.Returns) (fit : update.MillisFit) :
    codec.Delivers update update.truncateMillis := by
  cases update with
  | intervalReport report =>
      exact delivers_enum rfl (.restrict rfl (.mapFailures (IntervalReport.delivers returning fit)) rfl)
  | finished => exact delivers_enum rfl (.restrict rfl ⟨trivial, rfl⟩ rfl)

end GeneratorUpdate

end CreoBench
