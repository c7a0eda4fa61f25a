import CreoBench.Serde
import CreoBench.Wire

/-!
# The wire format of the messages

The formats that serde derives for the messages, and the handwritten ones of the
times.  A relative time travels as its seconds in binary64 and a measured duration
as its whole milliseconds; reading a relative time is the only operation that can
panic.
-/

namespace CreoBench

open SerdeCodec

section Configuration

variable {Mark : Type} {Fatal : Mark → Prop}

namespace LoadStepDeadline

def codec : Codec SerdeError Fatal LoadStepDeadline :=
  (newtypeStruct "LoadStepDeadline" f64).imap mk value

end LoadStepDeadline

def LoadStep.codec : Codec SerdeError Fatal LoadStep :=
  ((field "LoadStep" "deadline" LoadStepDeadline.codec).pair (field "LoadStep" "count" u32)).imap
    (fun (deadline, count) => ⟨deadline, count⟩) fun step => (step.deadline, step.count)

def LoadProfile.codec : Codec SerdeError Fatal LoadProfile :=
  (field "LoadProfile" "steps" (sequence "sequence" LoadStep.codec (Nat.succ_pos _))).imap
    mk steps

def Warmup.codec : Codec SerdeError Fatal Warmup :=
  ((field "Warmup" "rate" u32).pair
    ((field "Warmup" "duration" u32).pair (field "Warmup" "pause" u32))).imap
    (fun (rate, duration, pause) => ⟨rate, duration, pause⟩)
    fun warmup => (warmup.rate, warmup.duration, warmup.pause)

def ServiceRegistry.codec : Codec SerdeError Fatal ServiceRegistry :=
  map.imap mk services

def LoadGeneratorId.codec : Codec SerdeError Fatal LoadGeneratorId :=
  (newtypeStruct "LoadGeneratorId" u8).imap mk value

def LoadGeneratorConfig.codec : Codec SerdeError Fatal LoadGeneratorConfig :=
  ((field "LoadGeneratorConfig" "profile" LoadProfile.codec).pair <|
    (field "LoadGeneratorConfig" "script" string).pair <|
    (field "LoadGeneratorConfig" "registry" ServiceRegistry.codec).pair <|
    (field "LoadGeneratorConfig" "warmup" Warmup.codec).pair <|
    (field "LoadGeneratorConfig" "virtual_user_count" u32).pair <|
    (field "LoadGeneratorConfig" "seed" u64).pair <|
    (field "LoadGeneratorConfig" "timeout_ms" u64).pair <|
    field "LoadGeneratorConfig" "load_generator_id" LoadGeneratorId.codec).imap
    (fun (profile, script, registry, warmup, virtualUserCount, seed, timeoutMs,
        loadGeneratorId) =>
      { profile, script, registry, warmup, virtualUserCount, seed, timeoutMs, loadGeneratorId })
    fun config => (config.profile, config.script, config.registry, config.warmup,
      config.virtualUserCount, config.seed, config.timeoutMs, config.loadGeneratorId)

def ConfigMessage.codec : Codec SerdeError Fatal ConfigMessage :=
  enum "ConfigMessage" [
    .newtype "ConfigMessage" "Config" LoadGeneratorConfig.codec .config fun
      | .config content => some content
      | .abort => none,
    .unit .abort] (by simp)

def GeneratorInfo.codec : Codec SerdeError Fatal GeneratorInfo :=
  ((field "GeneratorInfo" "version" string).pair <|
    (field "GeneratorInfo" "os" string).pair <|
    (field "GeneratorInfo" "arch" string).pair <|
    (field "GeneratorInfo" "cores" u32).pair <|
    field "GeneratorInfo" "worker_threads" u32).imap
    (fun (version, os, arch, cores, workerThreads) => { version, os, arch, cores, workerThreads })
    fun info => (info.version, info.os, info.arch, info.cores, info.workerThreads)

def ConfigResponse.codec : Codec SerdeError Fatal ConfigResponse :=
  enum "ConfigResponse" [
    .newtype "ConfigResponse" "Ready" GeneratorInfo.codec .ready fun
      | .ready info => some info
      | _ => none,
    .of (variantField "ConfigResponse" "SetupFailed" "reason" string) .setupFailed fun
      | .setupFailed reason => some reason
      | _ => none,
    .unit .aborted] (by simp)

def Command.codec : Codec SerdeError Fatal Command :=
  enum "Command" [.unit .start, .unit .abort] (by simp)

end Configuration

/-- A number of seconds for which `Duration::from_secs_f64` panics. -/
def Unconvertible (secs : Binary64) : Prop :=
  Duration.fromSecsF64 secs = none

instance (secs : Binary64) : Decidable (Unconvertible secs) :=
  inferInstanceAs (Decidable (_ = _))

/-- A codec of what a started generator sends. -/
abbrev ReportCodec := Codec SerdeError Unconvertible

/-- The seconds of a relative time are converted while they are read. -/
def RelativeLoadTestTime.codec : ReportCodec RelativeLoadTestTime :=
  (Codec.convert Duration.fromSecsF64 f64 f64_calm (fun secs => ⟨trivial, (delivers_f64 secs).seen⟩)
    Duration.asSecsF64).imap mk duration

/-- Whole milliseconds; writing fails if they do not fit into 64 bits. -/
def DurationMeasurement.codec {Kind : Type} : ReportCodec (DurationMeasurement Kind) :=
  (u64.restrict (fun millis => ⟨Duration.fromMillis millis.toNat⟩)
    (fun measurement =>
      let millis := Duration.asMillis measurement.inner
      if millis < 2 ^ 64 then some (UInt64.ofNat millis) else none)
    (.custom "duration milliseconds overflows u64::MAX"))

def VirtualUserId.codec : ReportCodec VirtualUserId :=
  (newtypeStruct "VirtualUserId" u32).imap mk value

/-- A `usize` travels as 64 bits. -/
def SpecId.codec : ReportCodec SpecId :=
  (newtypeStruct "SpecId" u64).imap mk value

def DroppedCode.codec : ReportCodec DroppedCode :=
  enum "DroppedCode" [
    .unit .noVirtualUser,
    .unit .late,
    .newtype "DroppedCode" "Error" string .error fun
      | .error message => some message
      | _ => none] (by simp)

def FailedCode.codec : ReportCodec FailedCode :=
  enum "FailedCode" [
    .newtype "FailedCode" "Send" string .send fun
      | .send message => some message
      | _ => none,
    .newtype "FailedCode" "Extract" string .extract fun
      | .extract message => some message
      | _ => none,
    .newtype "FailedCode" "Status" u16 .status fun
      | .status code => some code
      | _ => none] (by simp)

def TimeoutCode.codec : ReportCodec TimeoutCode :=
  enum "TimeoutCode" [
    .newtype "TimeoutCode" "Error" string .error fun
      | .error message => some message] (by simp)

def DroppedMetadata.codec : ReportCodec DroppedMetadata :=
  ((field "DroppedMetadata" "virtual_user_id" (option VirtualUserId.codec)).pair <|
    (field "DroppedMetadata" "loadgenerator_id" LoadGeneratorId.codec).pair <|
    (field "DroppedMetadata" "start_time" RelativeLoadTestTime.codec).pair <|
    field "DroppedMetadata" "target_time" RelativeLoadTestTime.codec).imap
    (fun (virtualUserId, loadgeneratorId, startTime, targetTime) =>
      { virtualUserId, loadgeneratorId, startTime, targetTime })
    fun metadata => (metadata.virtualUserId, metadata.loadgeneratorId, metadata.startTime,
      metadata.targetTime)

def ResultMetadata.codec : ReportCodec ResultMetadata :=
  ((field "ResultMetadata" "spec_id" SpecId.codec).pair <|
    (field "ResultMetadata" "virtual_user_id" VirtualUserId.codec).pair <|
    (field "ResultMetadata" "loadgenerator_id" LoadGeneratorId.codec).pair <|
    (field "ResultMetadata" "start_time" RelativeLoadTestTime.codec).pair <|
    (field "ResultMetadata" "send_time" RelativeLoadTestTime.codec).pair <|
    field "ResultMetadata" "target_time" RelativeLoadTestTime.codec).imap
    (fun (specId, virtualUserId, loadgeneratorId, startTime, sendTime, targetTime) =>
      { specId, virtualUserId, loadgeneratorId, startTime, sendTime, targetTime })
    fun metadata => (metadata.specId, metadata.virtualUserId, metadata.loadgeneratorId,
      metadata.startTime, metadata.sendTime, metadata.targetTime)

def TransactionResult.codec : ReportCodec TransactionResult :=
  enum "TransactionResult" [
    .of ((variantField "TransactionResult" "Success" "metadata" ResultMetadata.codec).pair <|
        (variantField "TransactionResult" "Success" "response_time"
          DurationMeasurement.codec).pair <|
        variantField "TransactionResult" "Success" "service_time" DurationMeasurement.codec)
      (fun (metadata, responseTime, serviceTime) => .success metadata responseTime serviceTime)
      fun
        | .success metadata responseTime serviceTime => some (metadata, responseTime, serviceTime)
        | _ => none,
    .of ((variantField "TransactionResult" "Failed" "metadata" ResultMetadata.codec).pair <|
        (variantField "TransactionResult" "Failed" "response_time"
          DurationMeasurement.codec).pair <|
        (variantField "TransactionResult" "Failed" "service_time"
          DurationMeasurement.codec).pair <|
        variantField "TransactionResult" "Failed" "code" FailedCode.codec)
      (fun (metadata, responseTime, serviceTime, code) =>
        .failed metadata responseTime serviceTime code)
      fun
        | .failed metadata responseTime serviceTime code =>
            some (metadata, responseTime, serviceTime, code)
        | _ => none,
    .of ((variantField "TransactionResult" "Timeout" "metadata" ResultMetadata.codec).pair <|
        (variantField "TransactionResult" "Timeout" "response_time"
          DurationMeasurement.codec).pair <|
        (variantField "TransactionResult" "Timeout" "service_time"
          DurationMeasurement.codec).pair <|
        variantField "TransactionResult" "Timeout" "code" TimeoutCode.codec)
      (fun (metadata, responseTime, serviceTime, code) =>
        .timeout metadata responseTime serviceTime code)
      fun
        | .timeout metadata responseTime serviceTime code =>
            some (metadata, responseTime, serviceTime, code)
        | _ => none,
    .of ((variantField "TransactionResult" "Dropped" "metadata" DroppedMetadata.codec).pair <|
        (variantField "TransactionResult" "Dropped" "response_time"
          DurationMeasurement.codec).pair <|
        variantField "TransactionResult" "Dropped" "code" DroppedCode.codec)
      (fun (metadata, responseTime, code) => .dropped metadata responseTime code)
      fun
        | .dropped metadata responseTime code => some (metadata, responseTime, code)
        | _ => none] (by simp)

def IntervalStatistics.codec : ReportCodec IntervalStatistics :=
  ((field "IntervalStatistics" "successful_transactions" u64).pair <|
    (field "IntervalStatistics" "failed_transactions" u64).pair <|
    (field "IntervalStatistics" "timeout_transactions" u64).pair <|
    (field "IntervalStatistics" "dropped_transactions" u64).pair <|
    (field "IntervalStatistics" "response_time_sum" u64).pair <|
    (field "IntervalStatistics" "response_time_count" u64).pair <|
    field "IntervalStatistics" "transaction_results"
      (sequence "sequence" TransactionResult.codec (Nat.succ_pos _))).imap
    (fun (successfulTransactions, failedTransactions, timeoutTransactions,
        droppedTransactions, responseTimeSum, responseTimeCount, transactionResults) =>
      { successfulTransactions, failedTransactions, timeoutTransactions, droppedTransactions,
        responseTimeSum, responseTimeCount, transactionResults })
    fun stats => (stats.successfulTransactions, stats.failedTransactions,
      stats.timeoutTransactions, stats.droppedTransactions, stats.responseTimeSum,
      stats.responseTimeCount, stats.transactionResults)

def IntervalReport.codec : ReportCodec IntervalReport :=
  ((field "IntervalReport" "target_time" RelativeLoadTestTime.codec).pair <|
    (field "IntervalReport" "load_level" u32).pair <|
    (field "IntervalReport" "stats" IntervalStatistics.codec).pair <|
    field "IntervalReport" "final_batch_time" (option RelativeLoadTestTime.codec)).imap
    (fun (targetTime, loadLevel, stats, finalBatchTime) =>
      { targetTime, loadLevel, stats, finalBatchTime })
    fun report => (report.targetTime, report.loadLevel, report.stats, report.finalBatchTime)

def GeneratorUpdate.codec : ReportCodec GeneratorUpdate :=
  enum "GeneratorUpdate" [
    .newtype "GeneratorUpdate" "IntervalReport" IntervalReport.codec .intervalReport fun
      | .intervalReport report => some report
      | .finished => none,
    .unit .finished] (by simp)

end CreoBench
