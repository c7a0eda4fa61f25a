import CreoBench.Collect
import CreoBench.LoadGenerator
import CreoBench.WireCodecs

/-!
# One load generator and the orchestrator's tasks for it

A link is what the orchestrator keeps of one load generator, which has the type
of its handle in the source, together with the generator itself and the messages
between the two.  A message that was sent may arrive at any later time.  The
tasks that the orchestrator spawns for a link belong to the link: they connect,
configure, start and, after the start, write commands from a channel.
-/

namespace CreoBench

/-- Which handle the orchestrator holds, and where the task or call stands that
turns it into the next one. -/
inductive Handle where
  | connecting
  | unreachable
  /-- A `ConfigureHandle`. -/
  | connected
  /-- `ConfigureHandle::send_abort` waits for the response. -/
  | abortSent
  /-- An abort was sent instead of a configuration or a start, or failed to be. -/
  | aborted
  /-- `ConfigureHandle::configure`, before and after the message was sent. -/
  | configuring
  | configSent
  | configureFailed
  /-- A `StartHandle`. -/
  | configured (info : GeneratorInfo)
  | starting
  | startFailed
  /-- A `GeneratorHandle`, until it is removed from the list of handles. -/
  | started
  | finished
  | crashed
  deriving DecidableEq

/-- The task that takes commands from the channel of a started generator. -/
inductive CommandTask where
  | receiving
  | sending (command : Command)
  | ended
  deriving DecidableEq

structure Link where
  address : String
  config : LoadGeneratorConfig
  handle : Handle
  /-- What was written to the stream. -/
  sent : List Message
  generator : LoadGenerator
  /-- The number of updates that `recv` has returned. -/
  received : Nat
  commands : List Command
  commandTask : CommandTask
  /-- An abort was sent, or at least tried to be. -/
  issued : Bool
  /-- `GeneratorHandle::send_abort` returned `Ok`. -/
  queued : Bool
  deriving DecidableEq

namespace Link

def new (address : String) (config : LoadGeneratorConfig) : Link where
  address := address
  config := config
  handle := .connecting
  sent := []
  generator := .new
  received := 0
  commands := []
  commandTask := .receiving
  issued := false
  queued := false

def send (link : Link) (message : Message) (handle : Handle) : Link :=
  { link with sent := link.sent ++ [message], handle }

/-- The handle that a response to the configuration leads to. -/
def afterResponse : ConfigResponse → Handle
  | .ready info => .configured info
  | .setupFailed _ | .aborted => .configureFailed

/-- The next step of the task that `run` has spawned; `succeeds` tells whether its I/O
does. -/
def task (link : Link) (succeeds : Bool) : Option Link :=
  match link.handle, succeeds with
  | .connecting, true => some { link with handle := .connected }
  | .connecting, false => some { link with handle := .unreachable }
  | .configuring, true => some (link.send (.configure (.config link.config)) .configSent)
  | .configuring, false => some { link with handle := .configureFailed }
  | .configSent, true =>
      link.generator.answered.map fun response =>
        { link with handle := afterResponse response }
  | .configSent, false => some { link with handle := .configureFailed }
  | .starting, true => some (link.send (.command .start) .started)
  | .starting, false => some { link with handle := .startFailed }
  | _, _ => none

/-- The next step of the command task. -/
def stepCommandTask (link : Link) (succeeds : Bool) : Option Link :=
  match link.commandTask, link.commands, succeeds with
  | .receiving, command :: commands, _ =>
      some { link with commands, commandTask := .sending command }
  | .sending command, _, true =>
      some { link with sent := link.sent ++ [.command command], commandTask := .receiving }
  | .sending _, _, false => some { link with commandTask := .ended }
  | _, _, _ => none

/-- The next message on the way to the generator arrives. -/
def deliver (link : Link) : Option Link :=
  link.sent[link.generator.arrived.length]?.map fun message =>
    { link with generator := link.generator.arrive message }

/-- A step of the generator itself. -/
def stepGenerator (link : Link) : LoadGenerator.Event → Option Link
  | .arrive _ => none
  | event => (link.generator.step event).map fun generator => { link with generator }

/-- The next update that `recv` returns, as it comes off the wire. -/
def nextUpdate (link : Link) : Option GeneratorUpdate :=
  link.generator.updates[link.received]?.map GeneratorUpdate.codec.seen

/-- `GeneratorHandle::send_abort`; the channel holds one command. -/
def sendAbort (link : Link) : Option Link :=
  match link.commandTask, link.commands with
  | .ended, _ => some { link with issued := true }
  | _, [] => some { link with issued := true, queued := true, commands := [.abort] }
  | _, _ :: _ => none

end Link

/-! ## What has been sent -/

/-- The messages that can have been sent over a link with this handle. -/
def Handle.Sends (config : LoadGeneratorConfig) (sent : List Message) : Handle → Prop
  | .connecting | .unreachable | .connected | .configuring => sent = []
  | .abortSent => sent = [.configure .abort]
  | .aborted =>
      sent = [] ∨ sent = [.configure .abort] ∨ sent = [.configure (.config config)] ∨
        sent = [.configure (.config config), .command .abort]
  | .configSent | .configured _ | .starting | .startFailed =>
      sent = [.configure (.config config)]
  | .configureFailed => sent = [] ∨ sent = [.configure (.config config)]
  | .started | .finished | .crashed =>
      sent = [.configure (.config config), .command .start] ∨
        sent = [.configure (.config config), .command .start, .command .abort]

/-- The handles of the third phase, which begins when all generators are ready. -/
def Handle.isStart : Handle → Bool
  | .starting | .startFailed | .started | .finished | .crashed => true
  | _ => false

def Handle.isConnected : Handle → Bool
  | .connected => true
  | _ => false

def Handle.isConfigured : Handle → Bool
  | .configured _ => true
  | _ => false

/-- The handles of generators that were told to start. -/
def Handle.isStarted : Handle → Bool
  | .started | .finished | .crashed => true
  | _ => false

namespace Link

/-- What has become of the command to abort a started generator. -/
inductive Commanded (link : Link) : Prop
  | unqueued (queued : link.queued = false) (commands : link.commands = [])
      (task : link.commandTask = .receiving)
      (short : link.sent.length ≤ 2)
  | waiting (queued : link.queued = true) (commands : link.commands = [.abort])
      (task : link.commandTask = .receiving)
      (sent : link.sent = [.configure (.config link.config), .command .start])
  | writing (queued : link.queued = true) (commands : link.commands = [])
      (task : link.commandTask = .sending .abort)
      (sent : link.sent = [.configure (.config link.config), .command .start])
  | written (queued : link.queued = true) (commands : link.commands = [])
      (task : link.commandTask = .receiving)
      (sent : link.sent =
        [.configure (.config link.config), .command .start, .command .abort])
  | failed (queued : link.queued = true) (commands : link.commands = [])
      (task : link.commandTask = .ended)
      (sent : link.sent = [.configure (.config link.config), .command .start])

/-- What holds of every link, whatever the others do. -/
structure Sound (link : Link) : Prop where
  generator : link.generator.Sound
  arrived : link.generator.arrived <+: link.sent
  sends : link.handle.Sends link.config link.sent
  ready : link.handle.isStart ∨ link.handle.isConfigured →
    ∃ info, link.generator.answered = some (.ready info)
  commanded : link.Commanded

theorem sound_new (address : String) (config : LoadGeneratorConfig) :
    (new address config).Sound :=
  ⟨LoadGenerator.sound_new, List.prefix_refl _, rfl, nofun, .unqueued rfl rfl rfl (Nat.zero_le 2)⟩

theorem Commanded.congr {link next : Link} (commanded : link.Commanded)
    (sent : next.sent = link.sent) (config : next.config = link.config)
    (queued : next.queued = link.queued) (commands : next.commands = link.commands)
    (commandTask : next.commandTask = link.commandTask) : next.Commanded := by
  cases commanded with
  | unqueued before empty receiving short =>
      exact .unqueued (queued.trans before) (commands.trans empty)
        (commandTask.trans receiving) (sent ▸ short)
  | waiting before empty receiving shape =>
      exact .waiting (queued.trans before) (commands.trans empty)
        (commandTask.trans receiving) (by rw [sent, config, shape])
  | writing before empty receiving shape =>
      exact .writing (queued.trans before) (commands.trans empty)
        (commandTask.trans receiving) (by rw [sent, config, shape])
  | written before empty receiving shape =>
      exact .written (queued.trans before) (commands.trans empty)
        (commandTask.trans receiving) (by rw [sent, config, shape])
  | failed before empty receiving shape =>
      exact .failed (queued.trans before) (commands.trans empty)
        (commandTask.trans receiving) (by rw [sent, config, shape])

/-- Changes that leave the stream, the generator and the command alone. -/
theorem Sound.keep {link next : Link} (sound : link.Sound)
    (generator : next.generator = link.generator) (sent : next.sent = link.sent)
    (config : next.config = link.config)
    (sends : next.handle.Sends next.config next.sent)
    (ready : next.handle.isStart ∨ next.handle.isConfigured →
      ∃ info, next.generator.answered = some (.ready info))
    (queued : next.queued = link.queued) (commands : next.commands = link.commands)
    (commandTask : next.commandTask = link.commandTask) : next.Sound := by
  refine ⟨?_, ?_, sends, ready, ?_⟩
  · rw [generator]
    exact sound.generator
  · rw [generator, sent]
    exact sound.arrived
  · exact sound.commanded.congr sent config queued commands commandTask

/-- A message that is sent before the start is done. -/
theorem Sound.send {link : Link} {message : Message} {handle : Handle} (sound : link.Sound)
    (short : link.sent.length ≤ 1)
    (sends : handle.Sends link.config (link.sent ++ [message]))
    (ready : handle.isStart ∨ handle.isConfigured →
      ∃ info, link.generator.answered = some (.ready info)) :
    (link.send message handle).Sound := by
  refine ⟨sound.generator, sound.arrived.trans (List.prefix_append _ _), sends, ready, ?_⟩
  have unqueued : link.queued = false ∧ link.commands = [] ∧ link.commandTask = .receiving := by
    cases sound.commanded with
    | unqueued queued commands task => exact ⟨queued, commands, task⟩
    | waiting _ _ _ sent | writing _ _ _ sent | written _ _ _ sent | failed _ _ _ sent =>
        rw [sent] at short
        simp at short
  rcases unqueued with ⟨queued, commands, task⟩
  exact .unqueued queued commands task (by simpa [Link.send] using short)

/-- What a task does to the handle. -/
theorem task_cases {link next : Link} {succeeds : Bool}
    (stepped : link.task succeeds = some next) :
    (link.handle = .connecting ∧ (next.handle = .connected ∨ next.handle = .unreachable) ∨
      link.handle = .configuring ∧
        (next.handle = .configSent ∨ next.handle = .configureFailed) ∨
      link.handle = .configSent ∧
        (next.handle.isConfigured ∨ next.handle = .configureFailed) ∨
      link.handle = .starting ∧ (next.handle = .started ∨ next.handle = .startFailed)) ∧
      next.config = link.config ∧ next.issued = link.issued ∧ next.queued = link.queued := by
  revert stepped
  generalize handleEq : link.handle = handle
  fun_cases Link.task link succeeds
  case case9 => exact nofun
  all_goals
    rename_i taskEq
    rw [handleEq] at taskEq
    obtain rfl := taskEq
    intro stepped
  case case5 =>
    rcases Option.map_eq_some_iff.mp stepped with ⟨response, answered, rfl⟩
    cases response <;> simp [afterResponse, Handle.isConfigured]
  all_goals
    cases stepped
    simp [Link.send]

theorem Sound.task {link next : Link} {succeeds : Bool} (sound : link.Sound)
    (stepped : link.task succeeds = some next) : next.Sound := by
  have sends := sound.sends
  have ready := sound.ready
  revert stepped sends ready
  generalize handleEq : link.handle = handle
  fun_cases Link.task link succeeds
  case case9 =>
    intro stepped
    cases stepped
  all_goals
    rename_i taskEq
    rw [handleEq] at taskEq
    obtain rfl := taskEq
    intro stepped sends ready
  case case5 =>
    rcases Option.map_eq_some_iff.mp stepped with ⟨response, answered, rfl⟩
    cases response with
    | ready info => exact sound.keep rfl rfl rfl sends (fun _ => ⟨info, answered⟩) rfl rfl rfl
    | setupFailed reason | aborted => exact sound.keep rfl rfl rfl (.inr sends) nofun rfl rfl rfl
  all_goals cases stepped
  case case1 | case2 => exact sound.keep rfl rfl rfl sends nofun rfl rfl rfl
  case case3 =>
    exact sound.send (by rw [sends]; exact Nat.zero_le 1) (by rw [sends]; rfl) nofun
  case case4 => exact sound.keep rfl rfl rfl (.inl sends) nofun rfl rfl rfl
  case case6 => exact sound.keep rfl rfl rfl (.inr sends) nofun rfl rfl rfl
  case case7 =>
    exact sound.send (by rw [sends]; exact Nat.le_refl 1) (.inl (by rw [sends]; rfl)) ready
  case case8 => exact sound.keep rfl rfl rfl sends (fun _ => ready (.inl rfl)) rfl rfl rfl

/-- Only a started generator has been sent the start command. -/
theorem Sound.isStarted {link : Link} (sound : link.Sound)
    (start : .command .start ∈ link.sent) : link.handle.isStarted := by
  have sends := sound.sends
  cases handleEq : link.handle <;> rw [handleEq] at sends
  case connecting | unreachable | connected | configuring | abortSent | configSent | configured
    | starting | startFailed =>
    rw [sends] at start
    simp at start
  case aborted =>
    rcases sends with sent | sent | sent | sent <;> rw [sent] at start <;> simp at start
  case configureFailed =>
    rcases sends with sent | sent <;> rw [sent] at start <;> simp at start
  all_goals rfl

theorem isStart_of_isStarted {handle : Handle} (started : handle.isStarted) :
    handle.isStart := by
  cases handle <;> first | rfl | cases started

theorem Sound.sends_started {link : Link} (sound : link.Sound)
    (started : link.handle.isStarted) :
    link.sent = [.configure (.config link.config), .command .start] ∨
      link.sent = [.configure (.config link.config), .command .start, .command .abort] := by
  have sends := sound.sends
  cases handleEq : link.handle <;> rw [handleEq] at sends started
  case started | finished | crashed => exact sends
  all_goals cases started

/-- The handle of a started generator allows every message that it can be sent. -/
theorem sends_of_isStarted {config : LoadGeneratorConfig} {sent : List Message}
    {handle : Handle} (started : handle.isStarted)
    (shape : sent = [.configure (.config config), .command .start] ∨
      sent = [.configure (.config config), .command .start, .command .abort]) :
    handle.Sends config sent := by
  cases handle
  case started | finished | crashed => exact shape
  all_goals cases started

theorem Sound.stepCommandTask {link next : Link} {succeeds : Bool} (sound : link.Sound)
    (stepped : link.stepCommandTask succeeds = some next) : next.Sound := by
  have isStarted : link.sent = [.configure (.config link.config), .command .start] →
      link.handle.isStarted := fun sent => sound.isStarted (by rw [sent]; simp)
  unfold Link.stepCommandTask at stepped
  cases sound.commanded with
  | unqueued queued commands task | written queued commands task sent
  | failed queued commands task sent =>
      rw [task, commands] at stepped
      cases stepped
  | waiting queued commands task sent =>
      rw [task, commands] at stepped
      cases stepped
      exact ⟨sound.generator, sound.arrived, sound.sends, sound.ready,
        .writing queued rfl rfl sent⟩
  | writing queued commands task sent =>
      rw [task, commands] at stepped
      cases succeeds <;> cases stepped
      · exact ⟨sound.generator, sound.arrived, sound.sends, sound.ready,
          .failed queued rfl rfl sent⟩
      · have written : link.sent ++ [.command .abort] =
            [.configure (.config link.config), .command .start, .command .abort] := by
          rw [sent]
          rfl
        exact ⟨sound.generator, sound.arrived.trans (List.prefix_append _ _),
          sends_of_isStarted (isStarted sent) (.inr written), sound.ready,
          .written queued rfl rfl written⟩

theorem Sound.deliver {link next : Link} (sound : link.Sound)
    (delivered : link.deliver = some next) : next.Sound := by
  rcases Option.map_eq_some_iff.mp delivered with ⟨message, found, rfl⟩
  rcases sound.arrived with ⟨onTheWay, sentEq⟩
  have arrived : link.generator.arrived ++ [message] <+: link.sent := by
    rw [← sentEq] at found ⊢
    rw [List.getElem?_append_right (Nat.le_refl _), Nat.sub_self] at found
    cases onTheWay with
    | nil => cases found
    | cons first rest =>
        cases found
        rw [List.append_cons _ message rest]
        exact List.prefix_append _ _
  have generator : (link.generator.arrive message).Sound :=
    sound.generator.step (show link.generator.step (.arrive message) = _ from rfl)
  exact ⟨generator, arrived, sound.sends, sound.ready,
    sound.commanded.congr rfl rfl rfl rfl rfl⟩

theorem stepGenerator_eq_some {link next : Link} {event : LoadGenerator.Event}
    (stepped : link.stepGenerator event = some next) :
    ∃ generator, (∀ message, event ≠ .arrive message) ∧
      link.generator.step event = some generator ∧ next = { link with generator } := by
  unfold stepGenerator at stepped
  split at stepped
  · cases stepped
  · rename_i other
    rcases Option.map_eq_some_iff.mp stepped with ⟨generator, moved, rfl⟩
    exact ⟨generator, other, moved, rfl⟩

theorem Sound.stepGenerator {link next : Link} {event : LoadGenerator.Event}
    (sound : link.Sound) (stepped : link.stepGenerator event = some next) : next.Sound := by
  rcases stepGenerator_eq_some stepped with ⟨generator, other, moved, rfl⟩
  rcases LoadGenerator.keeps_of_step sound.generator moved with ⟨answers, arrived⟩
  refine ⟨sound.generator.step moved, ?_, sound.sends, ?_,
    sound.commanded.congr rfl rfl rfl rfl rfl⟩
  · rw [arrived other]
    exact sound.arrived
  · intro isReady
    rcases sound.ready isReady with ⟨info, answered⟩
    exact ⟨info, answers _ answered⟩

theorem Sound.sendAbort {link next : Link} (sound : link.Sound)
    (started : link.handle.isStarted) (unqueued : link.queued = false)
    (aborted : link.sendAbort = some next) : next.Sound := by
  cases sound.commanded with
  | unqueued _ commands task short =>
      have sent : link.sent = [.configure (.config link.config), .command .start] := by
        rcases sound.sends_started started with sent | sent
        · exact sent
        · rw [sent] at short
          simp at short
      unfold Link.sendAbort at aborted
      rw [task, commands] at aborted
      cases aborted
      exact ⟨sound.generator, sound.arrived, sound.sends, sound.ready,
        .waiting rfl rfl rfl sent⟩
  | waiting queued | writing queued | written queued | failed queued =>
      rw [unqueued] at queued
      cases queued

theorem sendAbort_keeps {link next : Link} (aborted : link.sendAbort = some next) :
    next.config = link.config ∧ next.handle = link.handle ∧ next.issued = true := by
  unfold sendAbort at aborted
  split at aborted <;> cases aborted <;> exact ⟨rfl, rfl, rfl⟩

theorem Sound.sends_configured {link : Link} (sound : link.Sound)
    (configured : link.handle.isConfigured) :
    link.sent = [.configure (.config link.config)] := by
  have sends := sound.sends
  cases handleEq : link.handle <;> rw [handleEq] at configured sends
  case configured info => exact sends
  all_goals cases configured

theorem isStart_of_isConfigured {handle : Handle} (configured : handle.isConfigured) :
    handle.isStart = false := by
  cases handle <;> first | rfl | cases configured

theorem stepCommandTask_keeps {link next : Link} {succeeds : Bool}
    (stepped : link.stepCommandTask succeeds = some next) :
    next.config = link.config ∧ next.handle = link.handle ∧ next.issued = link.issued ∧
      next.queued = link.queued := by
  unfold Link.stepCommandTask at stepped
  split at stepped <;> cases stepped <;> exact ⟨rfl, rfl, rfl, rfl⟩

end Link

end CreoBench
