import CreoBench.Time

/-!
# Transactions and their results

A dispatched transaction ends in exactly one of four ways.  The conversions
into results read the clock once, for the response time; their other data is
the transaction's own and what its execution measured.
-/

namespace CreoBench

structure LoadGeneratorId where
  value : UInt8
  deriving DecidableEq

structure VirtualUserId where
  value : UInt32
  deriving DecidableEq

/-- A `usize`, which has 64 bits on every supported target. -/
structure SpecId where
  value : UInt64
  deriving DecidableEq

inductive DroppedCode where
  | noVirtualUser
  | late
  | error (message : String)
  deriving DecidableEq

inductive FailedCode where
  | send (message : String)
  | extract (message : String)
  | status (code : UInt16)
  deriving DecidableEq

inductive TimeoutCode where
  | error (message : String)
  deriving DecidableEq

structure DroppedMetadata where
  virtualUserId : Option VirtualUserId
  loadgeneratorId : LoadGeneratorId
  startTime : RelativeLoadTestTime
  targetTime : RelativeLoadTestTime
  deriving DecidableEq

structure ResultMetadata where
  specId : SpecId
  virtualUserId : VirtualUserId
  loadgeneratorId : LoadGeneratorId
  startTime : RelativeLoadTestTime
  sendTime : RelativeLoadTestTime
  targetTime : RelativeLoadTestTime
  deriving DecidableEq

inductive TransactionResult where
  | success (metadata : ResultMetadata) (responseTime : ResponseTime)
      (serviceTime : ServiceTime)
  | failed (metadata : ResultMetadata) (responseTime : ResponseTime)
      (serviceTime : ServiceTime) (code : FailedCode)
  | timeout (metadata : ResultMetadata) (responseTime : ResponseTime)
      (serviceTime : ServiceTime) (code : TimeoutCode)
  | dropped (metadata : DroppedMetadata) (responseTime : ResponseTime)
      (code : DroppedCode)
  deriving DecidableEq

def TransactionResult.isDropped : TransactionResult → Bool
  | .dropped .. => true
  | _ => false

/-- The metadata of a request that was sent. -/
def TransactionResult.metadata : TransactionResult → Option ResultMetadata
  | .success metadata .. | .failed metadata .. | .timeout metadata .. => some metadata
  | .dropped .. => none

def TransactionResult.isSuccess : TransactionResult → Bool
  | .success .. => true
  | _ => false

/-- A transaction on its way: the fields of the source's `Metadata`. -/
structure Transaction where
  loadgeneratorId : LoadGeneratorId
  startTime : StartTime
  targetTime : RelativeLoadTestTime
  deriving DecidableEq

namespace Transaction

/-- The metadata shared by every result of a request that was sent. -/
def resultMetadata (transaction : Transaction) (virtualUserId : VirtualUserId)
    (specId : SpecId) (timing : RequestTiming) : ResultMetadata where
  specId := specId
  virtualUserId := virtualUserId
  loadgeneratorId := transaction.loadgeneratorId
  startTime := transaction.startTime.relativeToStart
  sendTime := transaction.startTime.relativeToStartOf timing.sentAt
  targetTime := transaction.targetTime

def intoDropped (transaction : Transaction) (virtualUserId : Option VirtualUserId)
    (code : DroppedCode) (now : Instant) : TransactionResult :=
  .dropped
    { virtualUserId := virtualUserId
      loadgeneratorId := transaction.loadgeneratorId
      startTime := transaction.startTime.relativeToStart
      targetTime := transaction.targetTime }
    (transaction.startTime.elapsed now) code

def intoSuccess (transaction : Transaction) (virtualUserId : VirtualUserId)
    (specId : SpecId) (timing : RequestTiming) (now : Instant) : TransactionResult :=
  .success (transaction.resultMetadata virtualUserId specId timing)
    (transaction.startTime.elapsed now) timing.serviceTime

def intoFailed (transaction : Transaction) (virtualUserId : VirtualUserId)
    (specId : SpecId) (timing : RequestTiming) (code : FailedCode)
    (now : Instant) : TransactionResult :=
  .failed (transaction.resultMetadata virtualUserId specId timing)
    (transaction.startTime.elapsed now) timing.serviceTime code

def intoTimeout (transaction : Transaction) (virtualUserId : VirtualUserId)
    (specId : SpecId) (timing : RequestTiming) (code : TimeoutCode)
    (now : Instant) : TransactionResult :=
  .timeout (transaction.resultMetadata virtualUserId specId timing)
    (transaction.startTime.elapsed now) timing.serviceTime code

end Transaction

/-- How the execution of a transaction can end. -/
inductive Outcome where
  | dropped (virtualUserId : Option VirtualUserId) (code : DroppedCode)
  | success (virtualUserId : VirtualUserId) (specId : SpecId) (timing : RequestTiming)
  | failed (virtualUserId : VirtualUserId) (specId : SpecId) (timing : RequestTiming)
      (code : FailedCode)
  | timeout (virtualUserId : VirtualUserId) (specId : SpecId) (timing : RequestTiming)
      (code : TimeoutCode)
  deriving DecidableEq

/-- The result that the task of a transaction logs when the clock shows `now`. -/
def Outcome.result (outcome : Outcome) (transaction : Transaction) (now : Instant) :
    TransactionResult :=
  match outcome with
  | .dropped virtualUserId code => transaction.intoDropped virtualUserId code now
  | .success virtualUserId specId timing =>
      transaction.intoSuccess virtualUserId specId timing now
  | .failed virtualUserId specId timing code =>
      transaction.intoFailed virtualUserId specId timing code now
  | .timeout virtualUserId specId timing code =>
      transaction.intoTimeout virtualUserId specId timing code now

end CreoBench
