import CreoBench.Library.ListIndex
import CreoBench.ReadyHandle

/-!
# A load generator, from its configuration to its last update

`serve` reads a configuration, creates the pool of virtual users, answers, and
then reads one command.  The messages of the orchestrator arrive whenever the
network delivers them; `serve` reads them only where it waits for one.
-/

namespace CreoBench

/-- What the orchestrator sends over one connection, with either codec. -/
inductive Message where
  | configure (message : ConfigMessage)
  | command (command : Command)
  deriving DecidableEq

def Message.isAbort : Message → Bool
  | .configure .abort | .command .abort => true
  | _ => false

namespace LoadGenerator

inductive ConfigWaitError where
  | sendFailed
  | unexpectedDisconnect
  | receiveError
  | setupFailed (reason : String)
  | aborted
  deriving DecidableEq

inductive WaitForCommandError where
  | unexpectedDisconnect
  | receiveError
  deriving DecidableEq

inductive Error where
  | config (error : ConfigWaitError)
  | command (error : WaitForCommandError)
  | abort
  /-- A failed send, or a panic. -/
  | loadTest
  deriving DecidableEq

/-- Where `serve` stands. -/
inductive Position where
  | waitForConfig
  /-- Creating the pool of virtual users. -/
  | setUp (config : LoadGeneratorConfig)
  /-- Inside one of the three `framed.send` of `process_config`. -/
  | sendAborted
  | sendSetupFailed (reason : String)
  | sendReady (info : GeneratorInfo) (config : LoadGeneratorConfig)
  | waitForCommand (config : LoadGeneratorConfig)
  | started (handle : ReadyHandle)
  | failed (error : Error)
  deriving DecidableEq

inductive Event where
  /-- A message arrives on the stream. -/
  | arrive (message : Message)
  /-- `framed.next()` yields the next message; the clock shows `now`. -/
  | receive (now : Instant)
  | disconnect
  | setUp (outcome : Except String GeneratorInfo)
  | send
  | sendFails
  | run (event : ReadyHandle.Event)

/-- The next position when a message has been read. -/
def Position.receive (now : Instant) : Position → Message → Option Position
  | .waitForConfig, .configure (.config config) => some (.setUp config)
  | .waitForConfig, .configure .abort => some .sendAborted
  -- A message of the other codec does not decode.
  | .waitForConfig, .command _ => some (.failed (.config .receiveError))
  | .waitForCommand config, .command .start =>
      some (.started (.new config.loadGeneratorId config.profile config.warmup now))
  | .waitForCommand _, .command .abort => some (.failed .abort)
  | .waitForCommand _, .configure _ => some (.failed (.command .receiveError))
  | _, _ => none

def Position.disconnect : Position → Option Position
  | .waitForConfig => some (.failed (.config .unexpectedDisconnect))
  | .waitForCommand _ => some (.failed (.command .unexpectedDisconnect))
  | _ => none

/-- The response that is being sent and what follows once it is sent. -/
def Position.response : Position → Option (ConfigResponse × Position)
  | .sendAborted => some (.aborted, .failed (.config .aborted))
  | .sendSetupFailed reason =>
      some (.setupFailed reason, .failed (.config (.setupFailed reason)))
  | .sendReady info config => some (.ready info, .waitForCommand config)
  | _ => none

/-- Whether `process_config` has returned. -/
def Position.isConfigured : Position → Bool
  | .waitForCommand _ | .started _ | .failed _ => true
  | _ => false

def Position.clock : Position → Option Instant
  | .started handle => some handle.now
  | _ => none

end LoadGenerator

structure LoadGenerator where
  /-- The messages that have arrived, of which `read` have been read. -/
  arrived : List Message
  read : Nat
  answered : Option ConfigResponse
  position : LoadGenerator.Position
  /-- What the clock showed when a command to abort arrived during the test. -/
  abortedAt : Option Instant
  deriving DecidableEq

namespace LoadGenerator

def new : LoadGenerator where
  arrived := []
  read := 0
  answered := none
  position := .waitForConfig
  abortedAt := none

def arrive (generator : LoadGenerator) (message : Message) : LoadGenerator :=
  { generator with
    arrived := generator.arrived ++ [message]
    abortedAt := if message = .command .abort then
        generator.abortedAt <|> generator.position.clock
      else generator.abortedAt }

def step (generator : LoadGenerator) : Event → Option LoadGenerator
  | .arrive message => some (generator.arrive message)
  | .receive now => do
      let message ← generator.arrived[generator.read]?
      let position ← generator.position.receive now message
      return { generator with read := generator.read + 1, position }
  | .disconnect => do
      let position ← generator.position.disconnect
      return { generator with position }
  | .setUp outcome =>
      match generator.position, outcome with
      | .setUp config, .ok info =>
          some { generator with position := .sendReady info config }
      | .setUp _, .error reason =>
          some { generator with position := .sendSetupFailed reason }
      | _, _ => none
  | .send => do
      let (response, position) ← generator.position.response
      return { generator with answered := some response, position }
  | .sendFails => do
      let _ ← generator.position.response
      return { generator with position := .failed (.config .sendFailed) }
  | .run event =>
      match generator.position with
      | .started handle => do
          let handle ← handle.step event
          return { generator with position := .started handle }
      | _ => none

/-- One generator whose orchestrator sends any messages at any time. -/
def machine : Machine LoadGenerator Event where
  initial generator := generator = new
  step := step

/-- What `serve` returned. -/
def result (generator : LoadGenerator) : Option (Except Error Unit) :=
  match generator.position with
  | .started handle =>
      match handle.reporter with
      | .finished => some (.ok ())
      | .failed => some (.error .loadTest)
      | _ => none
  | .failed error => some (.error error)
  | _ => none

/-- The updates sent so far. -/
def updates (generator : LoadGenerator) : List GeneratorUpdate :=
  match generator.position with
  | .started handle => handle.sent
  | _ => []

/-- The transactions dispatched so far. -/
def dispatched (generator : LoadGenerator) : List ReadyHandle.Task :=
  match generator.position with
  | .started handle => handle.history.dispatched
  | _ => []

/-! ## What has been read -/

/-- What `serve` has read when it stands at a position. -/
def Position.ReadSoFar (arrived : List Message) (read : Nat) : Position → Prop
  | .waitForConfig => read = 0
  | .setUp config | .sendReady _ config | .waitForCommand config =>
      read = 1 ∧ arrived[0]? = some (.configure (.config config))
  | .started handle =>
      arrived[1]? = some (.command .start) ∧ ReadyHandle.machine.Reachable handle ∧
        ∃ config, arrived[0]? = some (.configure (.config config)) ∧
          handle.loadgeneratorId = config.loadGeneratorId ∧
            handle.profile = config.profile ∧ handle.warmup = config.warmup
  | .failed error => error = .abort → arrived[1]? = some (.command .abort)
  | .sendAborted | .sendSetupFailed _ => True

theorem Position.ReadSoFar.mono {arrived later : List Message} {read : Nat}
    {position : Position} (isPrefix : arrived <+: later)
    (readSoFar : position.ReadSoFar arrived read) : position.ReadSoFar later read := by
  have grows : ∀ {index : Nat} {message : Message}, arrived[index]? = some message →
      later[index]? = some message := fun found => isPrefix.getElem?_eq_some found
  cases position with
  | waitForConfig => exact readSoFar
  | setUp config | sendReady info config | waitForCommand config =>
      exact ⟨readSoFar.1, grows readSoFar.2⟩
  | started handle =>
      rcases readSoFar with ⟨start, reachable, config, first, same⟩
      exact ⟨grows start, reachable, config, grows first, same⟩
  | failed error => exact fun aborted => grows (readSoFar aborted)
  | sendAborted | sendSetupFailed reason => trivial

theorem Position.ReadSoFar.receive {arrived : List Message} {read : Nat}
    {position next : Position} {message : Message} {now : Instant}
    (readSoFar : position.ReadSoFar arrived read) (found : arrived[read]? = some message)
    (received : position.receive now message = some next) :
    next.ReadSoFar arrived (read + 1) := by
  revert received
  fun_cases Position.receive now position message <;> intro received <;> cases received
  case case1 config =>
    obtain rfl : read = 0 := readSoFar
    exact ⟨rfl, found⟩
  case case4 config =>
    obtain ⟨rfl, first⟩ := readSoFar
    exact ⟨found, .start ⟨_, _, _, _, rfl⟩, config, first, rfl, rfl, rfl⟩
  case case2 => trivial
  case case5 config =>
    obtain ⟨rfl, -⟩ := readSoFar
    exact fun _ => found
  all_goals exact nofun

end LoadGenerator

/-- No step of a started generator changes what it was configured with. -/
theorem ReadyHandle.step_config {handle next : ReadyHandle} {event : ReadyHandle.Event}
    (stepped : handle.step event = some next) :
    next.loadgeneratorId = handle.loadgeneratorId ∧ next.profile = handle.profile ∧
      next.warmup = handle.warmup := by
  cases event with
  | tick elapsed =>
      cases stepped
      exact ⟨rfl, rfl, rfl⟩
  | pace gaps => cases pace_cases stepped <;> exact ⟨rfl, rfl, rfl⟩
  | report => cases report_cases stepped <;> exact ⟨rfl, rfl, rfl⟩
  | sendFails =>
      rw [sendFails_eq_some stepped]
      exact ⟨rfl, rfl, rfl⟩
  | complete index outcome finishedAt =>
      rcases complete_eq_some stepped with ⟨task, -, rfl⟩
      exact ⟨rfl, rfl, rfl⟩

namespace LoadGenerator

/-- Everything a step of the load test can be. -/
theorem run_eq_some {generator next : LoadGenerator} {event : ReadyHandle.Event}
    (stepped : generator.step (.run event) = some next) :
    ∃ handle handle', generator.position = .started handle ∧
      handle.step event = some handle' ∧
        next = { generator with position := .started handle' } := by
  simp only [step] at stepped
  split at stepped
  · rename_i handle positionEq
    rcases Option.bind_eq_some_iff.mp stepped with ⟨handle', moved, made⟩
    exact ⟨handle, handle', positionEq, moved, (Option.some.inj made).symm⟩
  · cases stepped

theorem setUp_eq_some {generator next : LoadGenerator}
    {outcome : Except String GeneratorInfo}
    (stepped : generator.step (.setUp outcome) = some next) :
    ∃ config, generator.position = .setUp config ∧
      ((∃ info, next = { generator with position := .sendReady info config }) ∨
        ∃ reason, next = { generator with position := .sendSetupFailed reason }) := by
  simp only [step] at stepped
  split at stepped
  · rename_i config info positionEq
    exact ⟨config, positionEq, .inl ⟨info, (Option.some.inj stepped).symm⟩⟩
  · rename_i config reason positionEq
    exact ⟨config, positionEq, .inr ⟨reason, (Option.some.inj stepped).symm⟩⟩
  · cases stepped

/-- What a step of a generator means for its load test. -/
inductive TestStep (generator : LoadGenerator) (event : Event) (next : LoadGenerator) : Prop
  | same : next.position = generator.position → TestStep generator event next
  | waits : (∀ before, generator.position ≠ .started before) →
      (∀ handle, next.position ≠ .started handle) → TestStep generator event next
  | begins {handle : ReadyHandle} : (∀ before, generator.position ≠ .started before) →
      next.position = .started handle → ReadyHandle.machine.initial handle →
        TestStep generator event next
  | moves {move : ReadyHandle.Event} {handle handle' : ReadyHandle} : event = .run move →
      generator.position = .started handle → handle.step move = some handle' →
        next.position = .started handle' → TestStep generator event next

theorem Position.receive_not_started {now : Instant} {position next : Position}
    {message : Message} (received : position.receive now message = some next) :
    (∀ before, position ≠ .started before) ∧
      ∀ handle, next = .started handle → ReadyHandle.machine.initial handle := by
  revert received
  fun_cases Position.receive now position message <;> intro received <;> cases received <;>
    refine ⟨by rintro _ ⟨⟩, ?_⟩ <;> rintro _ ⟨⟩
  exact ⟨_, _, _, _, rfl⟩

theorem Position.disconnect_not_started {position next : Position}
    (disconnected : position.disconnect = some next) :
    (∀ before, position ≠ .started before) ∧ ∀ handle, next ≠ .started handle := by
  revert disconnected
  fun_cases Position.disconnect position <;> intro disconnected <;> cases disconnected <;>
    exact ⟨by rintro _ ⟨⟩, by rintro _ ⟨⟩⟩

theorem Position.response_not_started {position next : Position} {response : ConfigResponse}
    (sending : position.response = some (response, next)) :
    (∀ before, position ≠ .started before) ∧ ∀ handle, next ≠ .started handle := by
  revert sending
  fun_cases Position.response position <;> intro sending <;> cases sending <;>
    exact ⟨by rintro _ ⟨⟩, by rintro _ ⟨⟩⟩

theorem testStep_of_step {generator next : LoadGenerator} {event : Event}
    (stepped : generator.step event = some next) : generator.TestStep event next := by
  cases event with
  | arrive message =>
      cases stepped
      exact .same rfl
  | receive now =>
      rcases Option.bind_eq_some_iff.mp stepped with ⟨message, -, rest⟩
      rcases Option.bind_eq_some_iff.mp rest with ⟨position, received, made⟩
      obtain rfl := Option.some.inj made
      rcases Position.receive_not_started received with ⟨before, initial⟩
      by_cases started : ∃ handle, position = .started handle
      · rcases started with ⟨handle, rfl⟩
        exact .begins before rfl (initial handle rfl)
      · exact .waits before (not_exists.mp started)
  | disconnect =>
      rcases Option.bind_eq_some_iff.mp stepped with ⟨position, disconnected, made⟩
      obtain rfl := Option.some.inj made
      rcases Position.disconnect_not_started disconnected with ⟨before, after⟩
      exact .waits before after
  | setUp outcome =>
      rcases setUp_eq_some stepped with ⟨config, positionEq, ⟨info, rfl⟩ | ⟨reason, rfl⟩⟩ <;>
        exact .waits (by simp [positionEq]) (by simp)
  | send =>
      rcases Option.bind_eq_some_iff.mp stepped with ⟨⟨response, position⟩, sending, made⟩
      obtain rfl := Option.some.inj made
      rcases Position.response_not_started sending with ⟨before, after⟩
      exact .waits before after
  | sendFails =>
      rcases Option.bind_eq_some_iff.mp stepped with ⟨⟨response, position⟩, sending, made⟩
      obtain rfl := Option.some.inj made
      exact .waits (Position.response_not_started sending).1 (by simp)
  | run event =>
      rcases run_eq_some stepped with ⟨handle, handle', positionEq, moved, rfl⟩
      exact .moves rfl positionEq moved rfl

/-- What is known of a generator that anyone may talk to. -/
structure Sound (generator : LoadGenerator) : Prop where
  readSoFar : generator.position.ReadSoFar generator.arrived generator.read
  ready : ∀ info, generator.answered = some (.ready info) →
    ∃ config, generator.arrived[0]? = some (.configure (.config config))
  answered : ∀ handle, generator.position = .started handle →
    ∃ info, generator.answered = some (.ready info)
  waiting : ∀ config, generator.position = .waitForCommand config →
    ∃ info, generator.answered = some (.ready info)
  unanswered : generator.position.isConfigured = false → generator.answered = none

theorem Sound.receive {generator next : LoadGenerator} {now : Instant}
    (sound : generator.Sound) (stepped : generator.step (.receive now) = some next) :
    next.Sound := by
  rcases Option.bind_eq_some_iff.mp stepped with ⟨message, found, rest⟩
  rcases Option.bind_eq_some_iff.mp rest with ⟨position, received, made⟩
  obtain rfl := Option.some.inj made
  have waited : ∀ handle, position = .started handle →
      ∃ config, generator.position = .waitForCommand config := by
    rintro handle rfl
    revert received
    generalize generator.position = before
    fun_cases Position.receive now before message <;> intro received <;> cases received
    rename_i config
    exact ⟨config, rfl⟩
  have notWaiting : ∀ config, position ≠ .waitForCommand config := by
    rintro config rfl
    revert received
    fun_cases Position.receive now generator.position message <;> intro received <;>
      cases received
  have unanswered : position.isConfigured = false → generator.position.isConfigured = false := by
    revert received
    fun_cases Position.receive now generator.position message <;> intro received <;>
      cases received <;> first | exact fun _ => rfl | exact nofun
  refine ⟨sound.readSoFar.receive found received, sound.ready, ?_, ?_, fun unconfigured =>
    sound.unanswered (unanswered unconfigured)⟩
  · intro handle started
    rcases waited handle started with ⟨config, positionEq⟩
    exact sound.waiting config positionEq
  · intro config waiting
    exact absurd waiting (notWaiting config)

theorem Sound.disconnect {generator next : LoadGenerator} (sound : generator.Sound)
    (stepped : generator.step .disconnect = some next) : next.Sound := by
  rcases Option.bind_eq_some_iff.mp stepped with ⟨position, disconnected, made⟩
  obtain rfl := Option.some.inj made
  revert disconnected
  fun_cases Position.disconnect generator.position <;> intro disconnected <;>
    cases disconnected <;>
      exact ⟨by rintro ⟨⟩, sound.ready, by rintro _ ⟨⟩, by rintro _ ⟨⟩, by rintro ⟨⟩⟩

theorem Sound.send {generator next : LoadGenerator} (sound : generator.Sound)
    (stepped : generator.step .send = some next) : next.Sound := by
  rcases Option.bind_eq_some_iff.mp stepped with ⟨⟨response, position⟩, sending, made⟩
  obtain rfl := Option.some.inj made
  have readSoFar := sound.readSoFar
  revert sending readSoFar
  fun_cases Position.response generator.position <;> intro sending readSoFar <;> cases sending
  · exact ⟨by rintro ⟨⟩, by rintro _ ⟨⟩, by rintro _ ⟨⟩, by rintro _ ⟨⟩, by rintro ⟨⟩⟩
  · exact ⟨by rintro ⟨⟩, by rintro _ ⟨⟩, by rintro _ ⟨⟩, by rintro _ ⟨⟩, by rintro ⟨⟩⟩
  · rename_i info config
    exact ⟨readSoFar, fun _ _ => ⟨config, readSoFar.2⟩, by rintro _ ⟨⟩, fun _ _ => ⟨info, rfl⟩,
      by rintro ⟨⟩⟩

theorem Sound.step {generator next : LoadGenerator} {event : Event}
    (sound : generator.Sound) (stepped : generator.step event = some next) : next.Sound := by
  cases event with
  | arrive message =>
      cases stepped
      refine ⟨sound.readSoFar.mono (List.prefix_append _ _), ?_, sound.answered, sound.waiting,
        sound.unanswered⟩
      intro info ready
      rcases sound.ready info ready with ⟨config, first⟩
      exact ⟨config, (List.prefix_append _ _).getElem?_eq_some first⟩
  | receive now => exact sound.receive stepped
  | disconnect => exact sound.disconnect stepped
  | setUp outcome =>
      have readSoFar := sound.readSoFar
      rcases setUp_eq_some stepped with ⟨config, positionEq, made⟩
      have unanswered := sound.unanswered (by rw [positionEq]; rfl)
      rcases made with ⟨info, rfl⟩ | ⟨reason, rfl⟩
      · rw [positionEq] at readSoFar
        exact ⟨readSoFar, sound.ready, by rintro _ ⟨⟩, by rintro _ ⟨⟩, fun _ => unanswered⟩
      · exact ⟨trivial, sound.ready, by rintro _ ⟨⟩, by rintro _ ⟨⟩, fun _ => unanswered⟩
  | send => exact sound.send stepped
  | sendFails =>
      rcases Option.bind_eq_some_iff.mp stepped with ⟨_, -, made⟩
      obtain rfl := Option.some.inj made
      exact ⟨by rintro ⟨⟩, sound.ready, by rintro _ ⟨⟩, by rintro _ ⟨⟩, by rintro ⟨⟩⟩
  | run event =>
      rcases run_eq_some stepped with ⟨handle, handle', positionEq, moved, rfl⟩
      have readSoFar := sound.readSoFar
      rw [positionEq] at readSoFar
      rcases readSoFar with ⟨start, reachable, config, first, id, profile, warmup⟩
      rcases ReadyHandle.step_config moved with ⟨sameId, sameProfile, sameWarmup⟩
      refine ⟨⟨start, reachable.step trivial moved, config, first, sameId.trans id,
        sameProfile.trans profile, sameWarmup.trans warmup⟩, sound.ready, ?_,
        by rintro _ ⟨⟩, by rintro ⟨⟩⟩
      intro _ _
      exact sound.answered handle positionEq

theorem sound_new : new.Sound := ⟨rfl, by rintro _ ⟨⟩, by rintro _ ⟨⟩, by rintro _ ⟨⟩, fun _ => rfl⟩

theorem sound_of_reachable {generator : LoadGenerator}
    (reachable : machine.Reachable generator) : generator.Sound := by
  apply reachable.invariant
  · rintro _ rfl
    exact sound_new
  · intro _ _ _ sound _ stepped
    exact sound.step stepped

/-- An answer is final, and only arrivals add to what has arrived. -/
theorem keeps_of_step {generator next : LoadGenerator} {event : Event}
    (sound : generator.Sound) (stepped : generator.step event = some next) :
    (∀ response, generator.answered = some response → next.answered = some response) ∧
      ((∀ message, event ≠ .arrive message) → next.arrived = generator.arrived) := by
  cases event with
  | arrive message =>
      cases stepped
      exact ⟨fun _ answered => answered, fun other => absurd rfl (other message)⟩
  | receive now =>
      rcases Option.bind_eq_some_iff.mp stepped with ⟨message, -, rest⟩
      rcases Option.bind_eq_some_iff.mp rest with ⟨position, -, made⟩
      obtain rfl := Option.some.inj made
      exact ⟨fun _ answered => answered, fun _ => rfl⟩
  | disconnect =>
      rcases Option.bind_eq_some_iff.mp stepped with ⟨position, -, made⟩
      obtain rfl := Option.some.inj made
      exact ⟨fun _ answered => answered, fun _ => rfl⟩
  | setUp outcome =>
      rcases setUp_eq_some stepped with ⟨config, -, ⟨info, rfl⟩ | ⟨reason, rfl⟩⟩ <;>
        exact ⟨fun _ answered => answered, fun _ => rfl⟩
  | send =>
      rcases Option.bind_eq_some_iff.mp stepped with ⟨⟨response, position⟩, sending, made⟩
      obtain rfl := Option.some.inj made
      have unconfigured : generator.position.isConfigured = false := by
        revert sending
        fun_cases Position.response generator.position <;> intro sending <;>
          first | rfl | cases sending
      rw [sound.unanswered unconfigured]
      exact ⟨nofun, fun _ => rfl⟩
  | sendFails =>
      rcases Option.bind_eq_some_iff.mp stepped with ⟨_, -, made⟩
      obtain rfl := Option.some.inj made
      exact ⟨fun _ answered => answered, fun _ => rfl⟩
  | run event =>
      rcases run_eq_some stepped with ⟨_, _, -, -, rfl⟩
      exact ⟨fun _ answered => answered, fun _ => rfl⟩

/-! ## Commands to abort -/

/-- What an abort asks for: the error, no final update, and no transaction that is
scheduled after the command arrived. -/
structure ObeysAbort (generator : LoadGenerator) : Prop where
  aborts : generator.result = some (.error .abort)
  silent : .finished ∉ generator.updates
  still : ∀ task ∈ generator.dispatched, ∃ instant, generator.abortedAt = some instant ∧
    task.transaction.startTime.instant.instant ≤ instant

/-- A generator that was told to start never ends with an abort. -/
theorem result_ne_abort {generator : LoadGenerator} (sound : generator.Sound)
    (start : generator.arrived[1]? = some (.command .start)) :
    generator.result ≠ some (.error .abort) := by
  have readSoFar := sound.readSoFar
  unfold result
  cases positionEq : generator.position with
  | started handle =>
      dsimp only
      split <;> exact nofun
  | failed error =>
      rw [positionEq] at readSoFar
      rintro ⟨⟩
      have abort : generator.arrived[1]? = some (.command .abort) := readSoFar rfl
      rw [start] at abort
      cases abort
  | waitForConfig | setUp config | sendAborted | sendSetupFailed reason
  | sendReady info config | waitForCommand config => exact nofun

/-- A load test runs on as if nothing had arrived. -/
theorem exec_run {generator : LoadGenerator} {handle final : ReadyHandle}
    (positionEq : generator.position = .started handle) (events : List ReadyHandle.Event)
    (ran : ReadyHandle.machine.exec (fun _ _ => true) handle events = some final) :
    machine.exec (fun _ _ => true) generator (events.map .run) =
      some { generator with position := .started final } := by
  induction events generalizing generator handle with
  | nil =>
      obtain rfl : handle = final := Option.some.inj ran
      rw [← positionEq]
      rfl
  | cons event events ih =>
      rcases Option.bind_eq_some_iff.mp ran with ⟨next, moved, rest⟩
      have stepped : generator.step (.run event) =
          some { generator with position := .started next } := by
        simp only [step, positionEq]
        exact Option.bind_eq_some_iff.mpr ⟨next, moved, rfl⟩
      simp only [List.map_cons, Machine.exec, if_true]
      refine Option.bind_eq_some_iff.mpr ⟨_, stepped, ?_⟩
      exact ih rfl rest

/-- However the load test goes and whenever the abort arrives after the start, it is not
obeyed: the abort is never returned, and everything that the load test can do without it
can still be done. -/
theorem not_obeysAbort {generator : LoadGenerator} (reachable : machine.Reachable generator)
    {config : LoadGeneratorConfig} {later : List Message}
    (arrived : generator.arrived =
      .configure (.config config) :: .command .start :: later)
    (_aborted : .command .abort ∈ later) :
    ¬ generator.ObeysAbort ∧
      ∀ handle final events, generator.position = .started handle →
        ReadyHandle.machine.exec (fun _ _ => true) handle events = some final →
          machine.exec (fun _ _ => true) generator (events.map .run) =
            some { generator with position := .started final } := by
  have start : generator.arrived[1]? = some (.command .start) := by rw [arrived]; rfl
  refine ⟨fun obeys => ?_, fun handle final events positionEq ran => ?_⟩
  · exact result_ne_abort (sound_of_reachable reachable) start obeys.aborts
  · exact exec_run positionEq events ran

/-! An abort arrives half a second before the only transaction is due. -/

section AbortedWhileWaiting

private def oneTransaction : LoadGeneratorConfig where
  profile := ⟨[⟨.fromSecs 1, 1⟩]⟩
  script := ""
  registry := ⟨.empty⟩
  warmup := ⟨0, 0, 0⟩
  virtualUserCount := 1
  seed := 0
  timeoutMs := 0
  loadGeneratorId := ⟨0⟩

private def messages : List Message :=
  [.configure (.config oneTransaction), .command .start, .command .abort]

private def untilFinished : List Event :=
  [.arrive (.configure (.config oneTransaction)), .receive 0, .setUp (.ok ⟨"", "", "", 2, 1⟩),
    .send, .arrive (.command .start), .receive 0] ++
  ([.report, .pace [], .pace [], .report, .report, .report,
    .pace [500000000]] : List ReadyHandle.Event).map .run ++
  [.arrive (.command .abort)] ++
  ([.tick 500000000, .pace [], .pace [], .pace [500000000], .pace [], .pace [], .report,
    .tick 500000000, .complete 0 (.dropped none .late) 1000000000, .report, .report, .report,
    .report, .report] : List ReadyHandle.Event).map .run

private theorem reaches_finished : ∃ generator, machine.Reachable generator ∧
    generator.arrived = messages ∧ generator.result.isSome ∧ .finished ∈ generator.updates ∧
      ∃ task ∈ generator.dispatched,
        generator.abortedAt.any (· < task.transaction.startTime.instant.instant) := by
  rcases machine.exists_reachable_of_exec (rfl : machine.initial new) untilFinished
    (fun generator => decide (generator.arrived = messages ∧ generator.result.isSome ∧
      .finished ∈ generator.updates ∧ ∃ task ∈ generator.dispatched,
        generator.abortedAt.any (· < task.transaction.startTime.instant.instant)))
    (by decide +kernel) with ⟨generator, reachable, checked⟩
  exact ⟨generator, reachable, of_decide_eq_true checked⟩

theorem not_obeysAbort_whileWaiting : ∃ generator, machine.Reachable generator ∧
    .finished ∈ generator.updates ∧
      (∃ task ∈ generator.dispatched,
        generator.abortedAt.any (· < task.transaction.startTime.instant.instant)) ∧
        ¬ generator.ObeysAbort := by
  rcases reaches_finished with ⟨generator, reachable, arrived, -, finished, late⟩
  exact ⟨generator, reachable, finished, late,
    (not_obeysAbort reachable arrived (List.mem_singleton_self _)).1⟩

/-- The generator ends its load test and reports it as finished. -/
theorem abort_during_test_ignored : ¬ ∀ generator, machine.Reachable generator →
    ∀ config later, generator.arrived =
        .configure (.config config) :: .command .start :: later →
      .command .abort ∈ later → generator.result.isSome → generator.ObeysAbort := by
  intro obeys
  rcases reaches_finished with ⟨generator, reachable, arrived, ended, finished, -⟩
  exact (obeys generator reachable _ _ arrived (List.mem_singleton_self _) ended).silent finished

end AbortedWhileWaiting

end LoadGenerator

end CreoBench
