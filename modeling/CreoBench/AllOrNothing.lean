import CreoBench.FramerStream

/-!
# Messages that are only partly written

`encode` writes into the buffer that is sent, first a header of an empty payload
and then the payload.  It leaves the buffer as it was, or one frame longer,
exactly for the messages whose payload can be written: nothing takes back what
was written before a failure.  With lengths that fit into 64 bits, as those of
all values do, only measured durations of `2 ^ 64` milliseconds or more fail.
-/

namespace CreoBench

open SerdeCodec

section Configuration

variable {Mark : Type} {Fatal : Mark → Prop}

/-! ## The lengths in a message -/

def ServiceRegistry.lengths (registry : ServiceRegistry) : List Nat :=
  registry.services.entries.length ::
    registry.services.entries.flatMap fun entry =>
      [(utf8Bytes entry.1).length, (utf8Bytes entry.2).length]

def LoadGeneratorConfig.lengths (config : LoadGeneratorConfig) : List Nat :=
  config.profile.steps.length :: (utf8Bytes config.script).length :: config.registry.lengths

def ConfigMessage.lengths : ConfigMessage → List Nat
  | .config content => content.lengths
  | .abort => []

def GeneratorInfo.lengths (info : GeneratorInfo) : List Nat :=
  [(utf8Bytes info.version).length, (utf8Bytes info.os).length, (utf8Bytes info.arch).length]

def ConfigResponse.lengths : ConfigResponse → List Nat
  | .ready info => info.lengths
  | .setupFailed reason => [(utf8Bytes reason).length]
  | .aborted => []

theorem LoadStep.writes (step : LoadStep) :
    (LoadStep.codec : Codec SerdeError Fatal LoadStep).Writes step := by
  rw [codec, Codec.writes_imap, Codec.writes_pair]
  exact ⟨rfl, rfl⟩

theorem ServiceRegistry.writes {registry : ServiceRegistry}
    (small : ∀ length ∈ registry.lengths, length < 2 ^ 64) :
    (ServiceRegistry.codec : Codec SerdeError Fatal ServiceRegistry).Writes registry := by
  rw [codec, Codec.writes_imap, map, Codec.writes_imap]
  refine writes_sequence.mpr ⟨small _ List.mem_cons_self, fun entry member => ?_⟩
  have smallTexts : ∀ length ∈ [(utf8Bytes entry.1).length, (utf8Bytes entry.2).length],
      length < 2 ^ 64 := fun length found =>
    small _ (List.mem_cons_of_mem _ (List.mem_flatMap.mpr ⟨entry, member, found⟩))
  rw [Codec.writes_pair, writes_string, writes_string]
  exact ⟨smallTexts _ (by simp), smallTexts _ (by simp)⟩

theorem LoadGeneratorConfig.writes {config : LoadGeneratorConfig}
    (small : ∀ length ∈ config.lengths, length < 2 ^ 64) :
    (LoadGeneratorConfig.codec : Codec SerdeError Fatal LoadGeneratorConfig).Writes config := by
  have steps : (LoadProfile.codec : Codec SerdeError Fatal LoadProfile).Writes
      config.profile := by
    rw [LoadProfile.codec, Codec.writes_imap, field, Codec.writes_mapFailures]
    exact writes_sequence.mpr ⟨small _ (by simp [lengths]), fun step _ => step.writes⟩
  have registry : (ServiceRegistry.codec : Codec SerdeError Fatal ServiceRegistry).Writes
      config.registry :=
    ServiceRegistry.writes fun length member => small _ (by simp [lengths, member])
  have script : (string : Codec SerdeError Fatal String).Writes config.script :=
    writes_string.mpr (small _ (by simp [lengths]))
  simp only [codec, Codec.writes_imap, Codec.writes_pair, field, Codec.writes_mapFailures]
  exact ⟨steps, script, registry, rfl, rfl, rfl, rfl, rfl⟩

theorem ConfigMessage.writes {message : ConfigMessage}
    (small : ∀ length ∈ message.lengths, length < 2 ^ 64) :
    (ConfigMessage.codec : Codec SerdeError Fatal ConfigMessage).Writes message := by
  cases message with
  | config content =>
      refine (writes_enum rfl).mpr ?_
      refine Variant.writes_newtype.mpr ?_
      exact ⟨content, rfl, LoadGeneratorConfig.writes small⟩
  | abort => rfl

theorem ConfigResponse.writes {response : ConfigResponse}
    (small : ∀ length ∈ response.lengths, length < 2 ^ 64) :
    (ConfigResponse.codec : Codec SerdeError Fatal ConfigResponse).Writes response := by
  cases response with
  | ready info =>
      refine (writes_enum rfl).mpr ?_
      refine Variant.writes_newtype.mpr ?_
      refine ⟨info, rfl, ?_⟩
      simp only [GeneratorInfo.codec, Codec.writes_imap, Codec.writes_pair, field,
        Codec.writes_mapFailures, writes_string]
      exact ⟨small _ (by simp [lengths, GeneratorInfo.lengths]),
        small _ (by simp [lengths, GeneratorInfo.lengths]),
        small _ (by simp [lengths, GeneratorInfo.lengths]), rfl, rfl⟩
  | setupFailed reason =>
      refine (writes_enum rfl).mpr ?_
      refine Variant.writes_of.mpr ?_
      refine ⟨reason, rfl, ?_⟩
      rw [variantField, Codec.writes_mapFailures, writes_string]
      exact small _ (by simp [lengths])
  | aborted => rfl

end Configuration

/-! ## Reports -/

theorem RelativeLoadTestTime.writes (time : RelativeLoadTestTime) :
    RelativeLoadTestTime.codec.Writes time := rfl

theorem DurationMeasurement.writes_iff {Kind : Type} {measurement : DurationMeasurement Kind} :
    codec.Writes measurement ↔ measurement.MillisFit := by
  refine Codec.writes_restrict.trans ?_
  constructor
  · rintro ⟨millis, found, -⟩
    dsimp only at found
    split_ifs at found with fits
    exact fits
  · intro fits
    exact ⟨_, if_pos fits, rfl⟩

def DroppedCode.lengths : DroppedCode → List Nat
  | .noVirtualUser | .late => []
  | .error message => [(utf8Bytes message).length]

def FailedCode.lengths : FailedCode → List Nat
  | .send message | .extract message => [(utf8Bytes message).length]
  | .status _ => []

def TimeoutCode.lengths : TimeoutCode → List Nat
  | .error message => [(utf8Bytes message).length]

theorem DroppedCode.writes {code : DroppedCode}
    (small : ∀ length ∈ code.lengths, length < 2 ^ 64) : codec.Writes code := by
  cases code with
  | noVirtualUser | late => rfl
  | error message =>
      refine (writes_enum rfl).mpr ?_
      refine Variant.writes_newtype.mpr ?_
      exact ⟨message, rfl, writes_string.mpr (small _ List.mem_cons_self)⟩

theorem FailedCode.writes {code : FailedCode}
    (small : ∀ length ∈ code.lengths, length < 2 ^ 64) : codec.Writes code := by
  cases code with
  | send message | extract message =>
      refine (writes_enum rfl).mpr ?_
      refine Variant.writes_newtype.mpr ?_
      exact ⟨message, rfl, writes_string.mpr (small _ List.mem_cons_self)⟩
  | status code => rfl

theorem TimeoutCode.writes {code : TimeoutCode}
    (small : ∀ length ∈ code.lengths, length < 2 ^ 64) : codec.Writes code := by
  cases code with
  | error message =>
      refine (writes_enum rfl).mpr ?_
      refine Variant.writes_newtype.mpr ?_
      exact ⟨message, rfl, writes_string.mpr (small _ List.mem_cons_self)⟩

theorem ResultMetadata.writes (metadata : ResultMetadata) : codec.Writes metadata := rfl

theorem DroppedMetadata.writes (metadata : DroppedMetadata) : codec.Writes metadata := by
  simp only [codec, Codec.writes_imap, Codec.writes_pair, field, Codec.writes_mapFailures]
  exact ⟨writes_option.mpr fun _ _ => rfl, rfl, rfl, rfl⟩

namespace TransactionResult

def lengths : TransactionResult → List Nat
  | .success _ _ _ => []
  | .failed _ _ _ code => code.lengths
  | .timeout _ _ _ code => code.lengths
  | .dropped _ _ code => code.lengths

/-- A result is written if its measured durations are. -/
theorem writes_iff {result : TransactionResult}
    (small : ∀ length ∈ result.lengths, length < 2 ^ 64) :
    codec.Writes result ↔ result.MillisFit := by
  cases result with
  | success metadata responseTime serviceTime =>
      refine (writes_enum rfl).trans ?_
      refine Variant.writes_of.trans ?_
      simp only [Option.some.injEq, exists_eq_left', variantField, Codec.writes_pair,
        Codec.writes_mapFailures, DurationMeasurement.writes_iff]
      exact and_iff_right metadata.writes
  | failed metadata responseTime serviceTime code =>
      refine (writes_enum rfl).trans ?_
      refine Variant.writes_of.trans ?_
      simp only [Option.some.injEq, exists_eq_left', variantField, Codec.writes_pair,
        Codec.writes_mapFailures, DurationMeasurement.writes_iff]
      rw [and_iff_right metadata.writes, and_iff_left (FailedCode.writes small)]
      rfl
  | timeout metadata responseTime serviceTime code =>
      refine (writes_enum rfl).trans ?_
      refine Variant.writes_of.trans ?_
      simp only [Option.some.injEq, exists_eq_left', variantField, Codec.writes_pair,
        Codec.writes_mapFailures, DurationMeasurement.writes_iff]
      rw [and_iff_right metadata.writes, and_iff_left (TimeoutCode.writes small)]
      rfl
  | dropped metadata responseTime code =>
      refine (writes_enum rfl).trans ?_
      refine Variant.writes_of.trans ?_
      simp only [Option.some.injEq, exists_eq_left', variantField, Codec.writes_pair,
        Codec.writes_mapFailures, DurationMeasurement.writes_iff]
      rw [and_iff_right metadata.writes, and_iff_left (DroppedCode.writes small)]
      rfl

end TransactionResult

namespace IntervalReport

def lengths (report : IntervalReport) : List Nat :=
  report.results.length :: report.results.flatMap (·.lengths)

theorem writes_iff {report : IntervalReport}
    (small : ∀ length ∈ report.lengths, length < 2 ^ 64) :
    codec.Writes report ↔ report.MillisFit := by
  have results : (sequence "sequence" TransactionResult.codec (Nat.succ_pos _)).Writes
      report.results ↔ report.MillisFit := by
    refine writes_sequence.trans ((and_iff_right (small _ List.mem_cons_self)).trans ?_)
    refine forall₂_congr fun result member => TransactionResult.writes_iff fun length found => ?_
    exact small _ (List.mem_cons_of_mem _ (List.mem_flatMap.mpr ⟨result, member, found⟩))
  have batch : (option RelativeLoadTestTime.codec).Writes report.finalBatchTime :=
    writes_option.mpr fun time _ => time.writes
  simp only [codec, IntervalStatistics.codec, Codec.writes_imap, Codec.writes_pair, field,
    Codec.writes_mapFailures]
  rw [and_iff_right report.targetTime.writes, and_iff_left batch]
  refine Iff.trans ?_ results
  constructor
  · rintro ⟨-, -, -, -, -, -, -, written⟩
    exact written
  · intro written
    exact ⟨rfl, rfl, rfl, rfl, rfl, rfl, rfl, written⟩

end IntervalReport

namespace GeneratorUpdate

def lengths : GeneratorUpdate → List Nat
  | .intervalReport report => report.lengths
  | .finished => []

theorem writes_iff {update : GeneratorUpdate}
    (small : ∀ length ∈ update.lengths, length < 2 ^ 64) :
    codec.Writes update ↔ update.MillisFit := by
  cases update with
  | intervalReport report =>
      refine (writes_enum rfl).trans ?_
      refine Variant.writes_newtype.trans ?_
      simp only [Option.some.injEq, exists_eq_left']
      exact IntervalReport.writes_iff small
  | finished => exact iff_of_true rfl trivial

end GeneratorUpdate

theorem read_enum_nil {Mark Value : Type} {Fatal : Mark → Prop} {name : String}
    {variants : List (Variant Fatal Value)} (few : variants.length < 2 ^ 32) :
    (enum name variants few).read [] = .failed (.unexpectedEnd 4 0) := rfl

namespace MessageFramer

variable {Mark : Type} {Fatal : Mark → Prop} {Payload : Type}
variable {codec : Codec SerdeError Fatal Payload}

/-- A payload that is written becomes one frame, as far as buffers are large. -/
theorem encode_of_writes {item : Payload} {dst : List UInt8} (writes : codec.Writes item)
    (allocated : (encode codec item dst).2.length ≤ isizeMax) :
    encode codec item dst = (.ok (), dst ++
      (headerBytes (codec.write item).bytes.length ++ (codec.write item).bytes)) := by
  have failureEq : (codec.write item).failure = none := writes
  have longEnough : ¬ MessageHeader.initHeader.length < MessageHeader.size := by decide
  have maxLt : isizeMax < 2 ^ 64 := by decide
  have nothingAfter : MessageHeader.initHeader.drop 12 = [] := rfl
  unfold encode at allocated ⊢
  simp only [failureEq, MessageHeader.patchPayloadSize, if_neg longEnough] at allocated ⊢
  split_ifs at allocated ⊢ with fits
  · dsimp only
    rw [nothingAfter, List.append_nil, List.append_assoc]
    rfl
  · -- the payload alone would be larger than any buffer
    simp only [List.length_append] at allocated
    omega

/-- A payload that is not written leaves a header behind. -/
theorem encode_of_not_writes {item : Payload} (fails : ¬ codec.Writes item)
    (dst : List UInt8) :
    ∃ err, encode codec item dst =
      (.error (.payload err), dst ++ (headerBytes 0 ++ (codec.write item).bytes)) := by
  obtain ⟨err, failureEq⟩ := Option.ne_none_iff_exists'.mp fails
  refine ⟨err, ?_⟩
  simp only [encode, failureEq, List.append_assoc]
  rfl

/-- Encoding only appends to the buffer. -/
theorem encode_appends (codec : Codec SerdeError Fatal Payload) (item : Payload)
    (dst : List UInt8) : ∃ bytes, (encode codec item dst).2 = dst ++ bytes := by
  unfold encode
  dsimp only
  split
  · exact ⟨_, List.append_assoc ..⟩
  · split <;> exact ⟨_, List.append_assoc ..⟩

end MessageFramer

namespace Protocol

open MessageFramer

def lengths : (protocol : Protocol) → protocol.Payload → List Nat
  | command => fun _ => []
  | configMessage => ConfigMessage.lengths
  | configResponse => ConfigResponse.lengths
  | generatorUpdate => GeneratorUpdate.lengths

/-- The measured durations in a message fit into 64 bits as milliseconds. -/
def MillisFit : (protocol : Protocol) → protocol.Payload → Prop
  | generatorUpdate => GeneratorUpdate.MillisFit
  | command | configMessage | configResponse => fun _ => True

theorem writes_iff {protocol : Protocol} {message : protocol.Payload}
    (small : ∀ length ∈ protocol.lengths message, length < 2 ^ 64) :
    protocol.codec.Writes message ↔ protocol.MillisFit message := by
  cases protocol with
  | command => cases message <;> exact iff_of_true rfl trivial
  | configMessage => exact iff_of_true (ConfigMessage.writes small) trivial
  | configResponse => exact iff_of_true (ConfigResponse.writes small) trivial
  | generatorUpdate => exact GeneratorUpdate.writes_iff small

/-- Encoding appends one frame, with the size of its payload in the header, or
nothing. -/
def AllOrNothing (protocol : Protocol) (message : protocol.Payload) (dst : List UInt8) : Prop :=
  match encode protocol.codec message dst with
  | (.ok (), dst') =>
      ∃ header payload, dst' = dst ++ (header ++ payload) ∧
        header.length = MessageHeader.size ∧
        MessageHeader.deserialize header MessageHeader.size = .ok ⟨0, payload.length⟩ ∧
        protocol.codec.write message = .ok payload
  | (.error _, dst') => dst' = dst

/-- What is left behind by a failure is a frame that no message can be read from,
whatever is appended to it. -/
theorem decode_leftover (protocol : Protocol) (rest : List UInt8) :
    decode protocol.codec (headerBytes 0 ++ rest) =
      .failed (.error (.payload (.unexpectedEnd 4 0))) := by
  have complete := @decode_complete _ _ _ protocol.codec [] (by decide) rest
  have empty : protocol.codec.read [] = .failed (.unexpectedEnd 4 0) := by
    cases protocol with
    | command | configMessage | configResponse | generatorUpdate =>
        exact read_enum_nil (by simp)
  rw [List.append_nil, List.length_nil] at complete
  rw [complete, payloadFrame, empty]

/-- After a failure no later message is decoded from the same buffer. -/
theorem decode_after_failure {protocol : Protocol} {message : protocol.Payload}
    (fails : ¬ protocol.codec.Writes message) (later : protocol.Payload) :
    decode protocol.codec
        (encode protocol.codec later (encode protocol.codec message []).2).2 =
      .failed (.error (.payload (.unexpectedEnd 4 0))) := by
  obtain ⟨err, encoded⟩ := encode_of_not_writes fails []
  obtain ⟨bytes, appended⟩ :=
    encode_appends protocol.codec later (encode protocol.codec message []).2
  rw [appended, encoded, List.nil_append, List.append_assoc]
  exact protocol.decode_leftover _

theorem not_allOrNothing_of_not_writes {protocol : Protocol} {message : protocol.Payload}
    (fails : ¬ protocol.codec.Writes message) (dst : List UInt8) :
    ¬ protocol.AllOrNothing message dst := by
  obtain ⟨err, encoded⟩ := encode_of_not_writes fails dst
  intro allOrNothing
  rw [AllOrNothing, encoded] at allOrNothing
  have nothing := congrArg List.length (List.append_right_eq_self.mp allOrNothing)
  have headerSize : MessageHeader.size = 12 := rfl
  rw [List.length_append, length_headerBytes, headerSize] at nothing
  simp at nothing

/-- Encoding is all or nothing for exactly the messages whose measured durations
are below `2 ^ 64` milliseconds. -/
theorem allOrNothing_iff (protocol : Protocol) (message : protocol.Payload) (dst : List UInt8)
    (small : ∀ length ∈ protocol.lengths message, length < 2 ^ 64)
    (allocated : (encode protocol.codec message dst).2.length ≤ isizeMax) :
    protocol.AllOrNothing message dst ↔ protocol.MillisFit message := by
  rw [← writes_iff small]
  constructor
  · intro allOrNothing
    by_contra fails
    exact not_allOrNothing_of_not_writes fails dst allOrNothing
  · intro writes
    have encoded := encode_of_writes writes allocated
    have fits := (encode_ok encoded).2.1
    rw [AllOrNothing, encoded]
    refine ⟨_, _, rfl, length_headerBytes _, ?_, ?_⟩
    · simpa using deserialize_headerBytes fits []
    · exact congrArg (Written.mk _) writes

/-- A report with one failed transaction that took `responseTime`. -/
def failedReport (responseTime : Duration) : GeneratorUpdate :=
  .intervalReport
    { targetTime := ⟨Duration.fromSecs 1⟩
      loadLevel := 1
      stats :=
        { successfulTransactions := 0, failedTransactions := 1, timeoutTransactions := 0,
          droppedTransactions := 0, responseTimeSum := 0, responseTimeCount := 1,
          transactionResults := [.failed
            { specId := ⟨0⟩, virtualUserId := ⟨0⟩, loadgeneratorId := ⟨0⟩, startTime := ⟨0⟩,
              sendTime := ⟨0⟩, targetTime := ⟨Duration.fromSecs 1⟩ }
            ⟨responseTime⟩ ⟨0⟩ (.send "refused")] }
      finalBatchTime := none }

theorem allOrNothing_iff_threeMillis :
    Protocol.generatorUpdate.AllOrNothing (failedReport (Duration.fromMillis 3)) [7] := by
  have small : ∀ length ∈ Protocol.generatorUpdate.lengths
      (failedReport (Duration.fromMillis 3)), length < 2 ^ 64 := by decide
  have allocated : (encode Protocol.generatorUpdate.codec
      (failedReport (Duration.fromMillis 3)) [7]).2.length ≤ isizeMax := by decide +kernel
  rw [allOrNothing_iff _ _ _ small allocated]
  have millis : Duration.asMillis (Duration.fromMillis 3) < 2 ^ 64 ∧
      Duration.asMillis 0 < 2 ^ 64 := by decide
  exact List.forall_mem_singleton.mpr millis

/-- The shortest response time that no report can hold. -/
def longResponse : Duration := Duration.fromMillis (2 ^ 64)

/-- Such a response time leaves a header in the buffer, and the next message is
not decoded. -/
theorem encode_leaves_header :
    (∃ err, (encode GeneratorUpdate.codec (failedReport longResponse) []).1 =
      .error (.payload err)) ∧
    ¬ Protocol.generatorUpdate.AllOrNothing (failedReport longResponse) [] ∧
    decode GeneratorUpdate.codec (encode GeneratorUpdate.codec .finished
        (encode GeneratorUpdate.codec (failedReport longResponse) []).2).2 =
      .failed (.error (.payload (.unexpectedEnd 4 0))) := by
  have tooLong : ¬ Duration.asMillis longResponse < 2 ^ 64 := by decide
  have fails : ¬ Protocol.generatorUpdate.codec.Writes (failedReport longResponse) := by
    refine mt (Protocol.writes_iff (by decide)).mp fun fit => ?_
    exact tooLong (List.forall_mem_singleton.mp fit).1
  obtain ⟨err, encoded⟩ := encode_of_not_writes fails []
  exact ⟨⟨err, congrArg Prod.fst encoded⟩, not_allOrNothing_of_not_writes fails [],
    decode_after_failure fails .finished⟩

end Protocol

end CreoBench
