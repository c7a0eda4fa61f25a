import CreoBench.Distribute
import CreoBench.DropSummary
import CreoBench.Link

/-!
# A run of the orchestrator

`LoadTestRunner::run` from its first phase on, together with all load generators.
The program is cut at every point where it waits; between two of its steps the
spawned tasks, the network and the generators take any steps of their own.  The
writer task is seen here only through its error signal.
-/

namespace CreoBench

structure LoadTestConfig where
  profile : LoadProfileConfig
  script : String
  registry : ServiceRegistry
  warmup : WarmupConfig
  generators : List String
  virtualUserCount : UInt32
  seed : UInt64
  timeoutMs : UInt64
  deriving DecidableEq

namespace LoadTestConfig

/-- The configuration of each load generator, with its share of the load. -/
def split (config : LoadTestConfig) : List LoadGeneratorConfig :=
  let count := config.generators.length
  ((List.range count).zip
    ((distributeProfile config.profile count).zip (distributeWarmup config.warmup count))).map
    fun (id, profile, warmup) =>
      { profile := .ofConfig profile
        script := config.script
        registry := config.registry
        warmup := .ofConfig warmup
        virtualUserCount := config.virtualUserCount
        seed := config.seed
        timeoutMs := config.timeoutMs
        loadGeneratorId := ⟨UInt8.ofNat id⟩ }

end LoadTestConfig

/-- What `run.json` says about a run, apart from version and times. -/
structure RunMetadata where
  valid : Bool
  virtualUserCount : UInt32
  timeoutMs : Option UInt64
  seed : UInt64
  generators : List (LoadGeneratorId × GeneratorInfo)
  drops : Option DropReport
  deriving DecidableEq

namespace LoadTestRunner

inductive Error where
  | connect
  | abort
  | start
  | collect (error : CollectError)
  | persist
  | output
  deriving DecidableEq

/-- Where `run` stands.  Generators are named by their position in the configuration. -/
inductive Program where
  | joinConnects (joined : Nat)
  | abortConnected (remaining : List Nat)
  /-- Inside `ConfigureHandle::send_abort`, waiting for the response. -/
  | awaitAborted (index : Nat) (remaining : List Nat)
  | joinConfigures (joined : Nat)
  | abortConfigured (remaining : List Nat)
  | joinStarts (joined : Nat)
  | createPersisters
  /-- Calling `GeneratorHandle::send_abort`. -/
  | abortStarted (remaining : List Nat)
  /-- Inside `collect_reports`, before the `recv` of the handle at `index`. -/
  | collect (handles : List Nat) (index : Nat) (roundReports : List IntervalReport)
  /-- Sending a merged report to the writer task. -/
  | persist (handles : List Nat) (report : IntervalReport)
  /-- All generators are done; the writer task is joined and the metadata written. -/
  | finish
  | succeeded (metadata : RunMetadata)
  | failed (error : Error)
  /-- After `process::exit`. -/
  | exited (error : Error)
  deriving DecidableEq

/-- How a step of `run` goes. -/
inductive RunEvent where
  | proceeds
  /-- What it waits for or tries fails. -/
  | fails
  /-- The writer task has signalled an error. -/
  | persistError
  deriving DecidableEq

inductive Event where
  | task (index : Nat) (succeeds : Bool)
  | commandTask (index : Nat) (succeeds : Bool)
  | deliver (index : Nat)
  | generator (index : Nat) (event : LoadGenerator.Event)
  | run (event : RunEvent)

end LoadTestRunner

open LoadTestRunner in
structure LoadTestRunner where
  config : LoadTestConfig
  links : List Link
  program : Program
  summary : DropSummary
  generators : List (LoadGeneratorId × GeneratorInfo)
  /-- All merged reports. -/
  merged : List IntervalReport
  deriving DecidableEq

namespace LoadTestRunner

def new (config : LoadTestConfig) : LoadTestRunner where
  config := config
  links := List.zipWith Link.new config.generators config.split
  program := .joinConnects 0
  summary := .new config.warmup.duration config.warmup.pause
  generators := []
  merged := []

theorem exists_new_of_mem_links {config : LoadTestConfig} {link : Link}
    (member : link ∈ (new config).links) : ∃ address share, link = .new address share := by
  rcases List.mem_iff_getElem?.mp member with ⟨index, found⟩
  change (List.zipWith Link.new config.generators config.split)[index]? = some link at found
  rw [List.getElem?_zipWith] at found
  split at found <;> cases found
  exact ⟨_, _, rfl⟩

def goto (runner : LoadTestRunner) (program : Program) : LoadTestRunner :=
  { runner with program }

/-- The generators whose handle satisfies `holds`, in order. -/
def indices (runner : LoadTestRunner) (holds : Handle → Bool) : List Nat :=
  (List.range runner.links.length).filter fun index =>
    runner.links[index]?.any fun link => holds link.handle

/-- Spawn a task for every generator. -/
def spawn (runner : LoadTestRunner) (handle : Handle) (program : Program) :
    LoadTestRunner :=
  { runner with links := runner.links.map fun link => { link with handle }, program }

def updateLink (runner : LoadTestRunner) (index : Nat) (link : Link) (program : Program) :
    LoadTestRunner :=
  { runner with links := runner.links.set index link, program }

/-- All connect tasks have been joined. -/
def allConnected (runner : LoadTestRunner) : LoadTestRunner :=
  if runner.links.all (·.handle.isConnected) then runner.spawn .configuring (.joinConfigures 0)
  else runner.goto (.abortConnected (runner.indices Handle.isConnected))

/-- The generators that have answered that they are ready. -/
def readyGenerators (runner : LoadTestRunner) : List (LoadGeneratorId × GeneratorInfo) :=
  runner.links.filterMap fun link =>
    match link.handle with
    | .configured info => some (link.config.loadGeneratorId, info)
    | _ => none

/-- All configure tasks have been joined. -/
def allReady (runner : LoadTestRunner) : LoadTestRunner :=
  if runner.links.all (·.handle.isConfigured) then
    { runner with generators := runner.readyGenerators }.spawn .starting (.joinStarts 0)
  else runner.goto (.abortConfigured (runner.indices Handle.isConfigured))

def joinConnect (runner : LoadTestRunner) (joined : Nat) : Option LoadTestRunner :=
  match runner.links[joined]? with
  | none => some runner.allConnected
  | some link =>
      if link.handle = .connecting then none
      else some (runner.goto (.joinConnects (joined + 1)))

def joinConfigure (runner : LoadTestRunner) (joined : Nat) : Option LoadTestRunner :=
  match runner.links[joined]? with
  | none => some runner.allReady
  | some link =>
      if link.handle = .configuring ∨ link.handle = .configSent then none
      else some (runner.goto (.joinConfigures (joined + 1)))

def joinStart (runner : LoadTestRunner) (joined : Nat) : Option LoadTestRunner :=
  match runner.links[joined]? with
  | none => some (runner.goto .createPersisters)
  | some link =>
      if link.handle = .starting then none
      -- The remaining tasks are left alone.
      else if link.handle = .startFailed then some (runner.goto (.failed .start))
      else some (runner.goto (.joinStarts (joined + 1)))

/-- Send a connected generator the message to abort, or fail to. -/
def abortConnected (runner : LoadTestRunner) (succeeds : Bool) (index : Nat)
    (remaining : List Nat) : Option LoadTestRunner :=
  match runner.links[index]?, succeeds with
  | some link, true =>
      some (runner.updateLink index
        { link.send (.configure .abort) .abortSent with issued := true }
        (.awaitAborted index remaining))
  | some link, false =>
      -- The error is logged.
      some (runner.updateLink index { link with issued := true, handle := .aborted }
        (.abortConnected remaining))
  | none, _ => none

/-- The response to the message to abort; whatever it is, at most an error is logged. -/
def awaitAborted (runner : LoadTestRunner) (succeeds : Bool) (index : Nat)
    (remaining : List Nat) : Option LoadTestRunner :=
  match runner.links[index]? with
  | some link =>
      if succeeds ∧ link.generator.answered = none then none
      else some (runner.updateLink index { link with handle := .aborted }
        (.abortConnected remaining))
  | none => none

/-- `handle.start(Command::Abort).await?` -/
def abortConfigured (runner : LoadTestRunner) (succeeds : Bool) (index : Nat)
    (remaining : List Nat) : Option LoadTestRunner :=
  match runner.links[index]?, succeeds with
  | some link, true =>
      some (runner.updateLink index
        { link.send (.command .abort) .aborted with issued := true }
        (.abortConfigured remaining))
  | some link, false =>
      some (runner.updateLink index { link with issued := true, handle := .aborted }
        (.failed .start))
  | none, _ => none

def abortStarted (runner : LoadTestRunner) (index : Nat) (remaining : List Nat) :
    Option LoadTestRunner := do
  let link ← runner.links[index]?
  let link ← link.sendAbort
  return runner.updateLink index link (.abortStarted remaining)

/-- The handles as `collect_reports` sees them when it merges a round. -/
def handlesAt (runner : LoadTestRunner) (handles : List Nat) : List GeneratorHandle :=
  handles.map fun index =>
    ⟨(runner.links[index]?.map (·.address)).getD "", [], false⟩

/-- The end of a round. -/
def merge (runner : LoadTestRunner) (handles : List Nat)
    (roundReports : List IntervalReport) : LoadTestRunner :=
  match mergeRound (runner.handlesAt handles) roundReports with
  | .ok none => runner.goto .finish
  | .ok (some report) =>
      { runner with
        program := .persist handles report
        summary := runner.summary.record report
        merged := runner.merged ++ [report] }
  | .error error => runner.goto (.failed (.collect error))

/-- What `recv` has returned for the handle at `index`. -/
def receive (runner : LoadTestRunner) (handles : List Nat) (index : Nat)
    (roundReports : List IntervalReport) (generator : Nat) (link : Link) :
    GeneratorUpdate → LoadTestRunner
  | .intervalReport report =>
      runner.updateLink generator { link with received := link.received + 1 }
        (.collect handles (index + 1) (roundReports ++ [report]))
  | .finished =>
      runner.updateLink generator
        { link with received := link.received + 1, handle := .finished }
        (.collect (handles.swapRemove index) index roundReports)

/-- One turn of the loop of `collect_reports`. -/
def collectNext (runner : LoadTestRunner) (handles : List Nat) (index : Nat)
    (roundReports : List IntervalReport) : Option LoadTestRunner :=
  match handles[index]? with
  | none => some (runner.merge handles roundReports)
  | some generator => do
      let link ← runner.links[generator]?
      let update ← link.nextUpdate
      return runner.receive handles index roundReports generator link update

/-- `recv` returns `None`. -/
def collectFails (runner : LoadTestRunner) (handles : List Nat) (index : Nat) :
    Option LoadTestRunner := do
  let generator ← handles[index]?
  let link ← runner.links[generator]?
  return runner.updateLink generator { link with handle := .crashed }
    (.failed (.collect (.instanceCrashed link.address)))

/-- The metadata of a run that has finished. -/
def metadata (runner : LoadTestRunner) : RunMetadata where
  valid := runner.summary.isValid
  virtualUserCount := runner.config.virtualUserCount
  timeoutMs := if 0 < runner.config.timeoutMs then some runner.config.timeoutMs else none
  seed := runner.config.seed
  generators := runner.generators
  drops := runner.summary.report

def stepRun (runner : LoadTestRunner) (event : RunEvent) : Option LoadTestRunner :=
  match runner.program, event with
  | .joinConnects joined, .proceeds => runner.joinConnect joined
  | .abortConnected [], .proceeds => some (runner.goto (.failed .connect))
  | .abortConnected (index :: remaining), .proceeds =>
      runner.abortConnected true index remaining
  | .abortConnected (index :: remaining), .fails => runner.abortConnected false index remaining
  | .awaitAborted index remaining, .proceeds => runner.awaitAborted true index remaining
  | .awaitAborted index remaining, .fails => runner.awaitAborted false index remaining
  | .joinConfigures joined, .proceeds => runner.joinConfigure joined
  | .abortConfigured [], .proceeds => some (runner.goto (.failed .abort))
  | .abortConfigured (index :: remaining), .proceeds =>
      runner.abortConfigured true index remaining
  | .abortConfigured (index :: remaining), .fails =>
      runner.abortConfigured false index remaining
  | .joinStarts joined, .proceeds => runner.joinStart joined
  | .createPersisters, .proceeds =>
      some (runner.goto (.collect (List.range runner.links.length) 0 []))
  | .createPersisters, .fails =>
      some (runner.goto (.abortStarted (List.range runner.links.length)))
  | .abortStarted [], .proceeds => some (runner.goto (.failed .persist))
  | .abortStarted (index :: remaining), .proceeds => runner.abortStarted index remaining
  | .collect handles index roundReports, .proceeds =>
      runner.collectNext handles index roundReports
  | .collect handles index _, .fails => runner.collectFails handles index
  | .collect handles _ _, .persistError => some (runner.goto (.abortStarted handles))
  | .persist handles _, .proceeds => some (runner.goto (.collect handles 0 []))
  | .persist handles _, .persistError => some (runner.goto (.abortStarted handles))
  | .finish, .proceeds => some (runner.goto (.succeeded runner.metadata))
  | .finish, .fails => some (runner.goto (.failed .output))
  | .finish, .persistError => some (runner.goto (.failed .persist))
  | .failed error, .proceeds => some (runner.goto (.exited error))
  | _, _ => none

def hasExited : Program → Bool
  | .exited _ => true
  | _ => false

/-- A step of one link. -/
def stepLink (runner : LoadTestRunner) (index : Nat) (change : Link → Option Link) :
    Option LoadTestRunner := do
  let link ← runner.links[index]?
  let link ← change link
  return runner.updateLink index link runner.program

/-- A step of a task of the orchestrator, which ends with its process. -/
def stepTask (runner : LoadTestRunner) (index : Nat) (change : Link → Option Link) :
    Option LoadTestRunner :=
  if hasExited runner.program then none else runner.stepLink index change

def step (runner : LoadTestRunner) : Event → Option LoadTestRunner
  | .task index succeeds => runner.stepTask index (·.task succeeds)
  | .commandTask index succeeds => runner.stepTask index (·.stepCommandTask succeeds)
  | .deliver index => runner.stepLink index (·.deliver)
  | .generator index event => runner.stepLink index (·.stepGenerator event)
  | .run event => runner.stepRun event

/-- Any number of generators that fit their identifiers. -/
def machine : Machine LoadTestRunner Event where
  initial runner := ∃ config : LoadTestConfig,
    0 < config.generators.length ∧ config.generators.length ≤ 256 ∧ runner = new config
  step := step

end LoadTestRunner

end CreoBench
