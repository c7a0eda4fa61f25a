import CreoBench.Library.SortedMap
import CreoBench.Tracker
import Mathlib.Data.String.Basic

/-!
# Messages between the orchestrator and the load generators

The orchestrator sends a `ConfigMessage`, which is answered by a
`ConfigResponse`, and then a `Command`; a started generator answers with
`GeneratorUpdate`s.
-/

namespace CreoBench

/-- A deadline in seconds, as it is configured and travels on the wire. -/
structure LoadStepDeadline where
  value : Binary64
  deriving DecidableEq

namespace LoadStepDeadline

def fromSecs (secs : Nat) : LoadStepDeadline := ⟨Binary64.ofNat secs⟩

def add (deadline : LoadStepDeadline) (secs : Binary64) : LoadStepDeadline :=
  ⟨Binary64.add deadline.value secs⟩

end LoadStepDeadline

structure LoadStep where
  deadline : LoadStepDeadline
  count : UInt32
  deriving DecidableEq

structure LoadProfile where
  steps : List LoadStep
  deriving DecidableEq

structure Warmup where
  rate : UInt32
  duration : UInt32
  pause : UInt32
  deriving DecidableEq

/-- Service names and their addresses. -/
structure ServiceRegistry where
  services : SortedMap String String
  deriving DecidableEq

structure LoadGeneratorConfig where
  profile : LoadProfile
  script : String
  registry : ServiceRegistry
  warmup : Warmup
  virtualUserCount : UInt32
  seed : UInt64
  timeoutMs : UInt64
  loadGeneratorId : LoadGeneratorId
  deriving DecidableEq

inductive ConfigMessage where
  | config (config : LoadGeneratorConfig)
  | abort
  deriving DecidableEq

/-- Details about a load generator instance, reported once it is ready. -/
structure GeneratorInfo where
  version : String
  os : String
  arch : String
  cores : UInt32
  workerThreads : UInt32
  deriving DecidableEq

inductive ConfigResponse where
  | ready (info : GeneratorInfo)
  | setupFailed (reason : String)
  | aborted
  deriving DecidableEq

inductive Command where
  | start
  | abort
  deriving DecidableEq

/-- The statistics of an interval that ends at `targetTime`. -/
structure IntervalReport where
  targetTime : RelativeLoadTestTime
  loadLevel : UInt32
  stats : IntervalStatistics
  finalBatchTime : Option RelativeLoadTestTime
  deriving DecidableEq

def IntervalReport.results (report : IntervalReport) : List TransactionResult :=
  report.stats.transactionResults

inductive GeneratorUpdate where
  | intervalReport (report : IntervalReport)
  | finished
  deriving DecidableEq

end CreoBench
