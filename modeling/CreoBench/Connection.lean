import CreoBench.FramerStream
import CreoBench.Library.TransitionSystem

/-!
# A connection, byte by byte

Both sides wrap the stream in a `Framed` of the configuration phase and, after
`into_inner` has thrown its read buffer away, in one of the load test.  A message
is written in any pieces, and the pieces are read in any others; only a side that
waits for a message reads.  Every other decision of both sides is open.
-/

namespace CreoBench

/-- A message of any of the four codecs. -/
abbrev Packet := (protocol : Protocol) × protocol.Payload

/-- One side of a connection. -/
structure Endpoint where
  /-- The messages whose `send` has begun. -/
  sent : List Packet
  /-- The bytes handed to the stream. -/
  written : List UInt8
  /-- The rest of the message that is being sent. -/
  left : List UInt8
  /-- How many bytes of the other side have been read. -/
  taken : Nat
  /-- The read buffer of the current `Framed`. -/
  buffer : List UInt8
  decoded : List Packet
  /-- The read buffers that `into_inner` has discarded. -/
  discarded : List (List UInt8)

namespace Endpoint

def new : Endpoint where
  sent := []
  written := []
  left := []
  taken := 0
  buffer := []
  decoded := []
  discarded := []

/-- `send` encodes the message; a failure writes nothing. -/
def send (endpoint : Endpoint) (packet : Packet) : Option Endpoint :=
  match MessageFramer.encode packet.1.codec packet.2 [] with
  | (.ok (), bytes) =>
      if bytes.length ≤ isizeMax then
        some { endpoint with sent := endpoint.sent ++ [packet], left := bytes }
      else none
  | (.error _, _) => none

/-- A piece of the message is written to the stream. -/
def write (endpoint : Endpoint) (count : Nat) : Endpoint :=
  { endpoint with
    written := endpoint.written ++ endpoint.left.take count
    left := endpoint.left.drop count }

/-- Bytes that the other side has written are read into the buffer. -/
def read (endpoint : Endpoint) (written : List UInt8) (count : Nat) : Endpoint :=
  { endpoint with
    taken := endpoint.taken + ((written.drop endpoint.taken).take count).length
    buffer := endpoint.buffer ++ (written.drop endpoint.taken).take count }

/-- `decode` finds a message, fails, or waits for more bytes. -/
def decode (protocol : Protocol) (endpoint : Endpoint) :
    NextFrame UInt8 protocol.Payload DecodeStop :=
  MessageFramer.decode protocol.codec endpoint.buffer

/-- A message is taken out of the buffer. -/
def decodedTo (endpoint : Endpoint) (packet : Packet) (rest : List UInt8) : Endpoint :=
  { endpoint with buffer := rest, decoded := endpoint.decoded ++ [packet] }

/-- `Framed::into_inner` and a new `Framed` around the stream. -/
def intoInner (endpoint : Endpoint) : Endpoint :=
  { endpoint with buffer := [], discarded := endpoint.discarded ++ [endpoint.buffer] }

end Endpoint

namespace Connection

/-- Where the orchestrator's handle stands. -/
inductive Orchestrator where
  /-- A `ConfigureHandle`. -/
  | connected
  /-- In `configure`, or in `send_abort`, before and after the message is sent. -/
  | sending (abort : Bool)
  | awaiting (abort : Bool)
  /-- A `StartHandle`. -/
  | ready
  | sendingCommand
  /-- The tasks that read updates and write commands. -/
  | started
  /-- An error, or a response that ends the connection. -/
  | closed
  deriving DecidableEq

inductive Generator where
  /-- In `process_config`. -/
  | waitForConfig
  | settingUp
  | sending (ready : Bool)
  /-- A `ReadyHandle`. -/
  | waitForCommand
  | started
  | closed
  deriving DecidableEq

inductive Side where
  | orchestrator
  | generator
  deriving DecidableEq

inductive Event where
  | write (side : Side) (count : Nat)
  | read (side : Side) (count : Nat)
  | decode (side : Side)
  /-- The message is written. -/
  | flushed (side : Side)
  /-- A failing call, or the end of the other side. -/
  | close (side : Side)
  /-- What the orchestrator decides to send, and when. -/
  | configure (message : ConfigMessage)
  | command (command : Command)
  /-- The end of the generator's setup. -/
  | setUp (outcome : Except String GeneratorInfo)
  /-- What the generator has to report, and when. -/
  | update (update : GeneratorUpdate)

end Connection

open Connection in
structure Connection where
  orchestrator : Endpoint
  generator : Endpoint
  orchestratorAt : Orchestrator
  generatorAt : Generator

namespace Connection

def new : Connection where
  orchestrator := .new
  generator := .new
  orchestratorAt := .connected
  generatorAt := .waitForConfig

/-- The codec with which a side reads, if it does. -/
def Orchestrator.reads : Orchestrator → Option Protocol
  | .awaiting _ => some .configResponse
  | .started => some .generatorUpdate
  | _ => none

def Generator.reads : Generator → Option Protocol
  | .waitForConfig => some .configMessage
  | .waitForCommand => some .command
  | _ => none

/-- The orchestrator has decoded a response. -/
def respond (connection : Connection) (abort : Bool) : ConfigResponse → Connection
  | .ready _ =>
      if abort then { connection with orchestratorAt := .closed }
      else { connection with
        orchestrator := connection.orchestrator.intoInner
        orchestratorAt := .ready }
  | .setupFailed _ | .aborted => { connection with orchestratorAt := .closed }

/-- The generator has decoded its configuration, or that it is aborted. -/
def configured (connection : Connection) : ConfigMessage → Option Connection
  | .config _ => some { connection with generatorAt := .settingUp }
  | .abort => do
      let generator ← connection.generator.send ⟨.configResponse, .aborted⟩
      return { connection with generator, generatorAt := .sending false }

/-- The generator has decoded its command. -/
def commanded (connection : Connection) : Command → Connection
  | .start => { connection with generatorAt := .started }
  | .abort => { connection with generatorAt := .closed }

def decodeOrchestrator (connection : Connection) : Option Connection :=
  match connection.orchestratorAt with
  | .awaiting abort =>
      match connection.orchestrator.decode .configResponse with
      | .frame response rest =>
          some ({ connection with
            orchestrator := connection.orchestrator.decodedTo ⟨.configResponse, response⟩
              rest }.respond abort response)
      | .failed _ => some { connection with orchestratorAt := .closed }
      | .incomplete => none
  | .started =>
      match connection.orchestrator.decode .generatorUpdate with
      | .frame update rest =>
          some { connection with
            orchestrator := connection.orchestrator.decodedTo ⟨.generatorUpdate, update⟩ rest }
      | .failed _ => some { connection with orchestratorAt := .closed }
      | .incomplete => none
  | _ => none

def decodeGenerator (connection : Connection) : Option Connection :=
  match connection.generatorAt with
  | .waitForConfig =>
      match connection.generator.decode .configMessage with
      | .frame message rest =>
          { connection with
            generator := connection.generator.decodedTo ⟨.configMessage, message⟩
              rest }.configured message
      | .failed _ => some { connection with generatorAt := .closed }
      | .incomplete => none
  | .waitForCommand =>
      match connection.generator.decode .command with
      | .frame command rest =>
          some ({ connection with
            generator := connection.generator.decodedTo ⟨.command, command⟩
              rest }.commanded command)
      | .failed _ => some { connection with generatorAt := .closed }
      | .incomplete => none
  | _ => none

def flushedOrchestrator (connection : Connection) : Option Connection :=
  match connection.orchestratorAt with
  | .sending abort => some { connection with orchestratorAt := .awaiting abort }
  | .sendingCommand => some { connection with orchestratorAt := .started }
  | _ => none

def flushedGenerator (connection : Connection) : Option Connection :=
  match connection.generatorAt with
  | .sending true =>
      some { connection with
        generator := connection.generator.intoInner
        generatorAt := .waitForCommand }
  | .sending false => some { connection with generatorAt := .closed }
  | _ => none

def step (connection : Connection) : Event → Option Connection
  | .write .orchestrator count =>
      if connection.orchestratorAt = .closed then none
      else some { connection with orchestrator := connection.orchestrator.write count }
  | .write .generator count =>
      if connection.generatorAt = .closed then none
      else some { connection with generator := connection.generator.write count }
  | .read .orchestrator count =>
      if connection.orchestratorAt.reads.isSome then
        some { connection with
          orchestrator := connection.orchestrator.read connection.generator.written count }
      else none
  | .read .generator count =>
      if connection.generatorAt.reads.isSome then
        some { connection with
          generator := connection.generator.read connection.orchestrator.written count }
      else none
  | .decode .orchestrator => connection.decodeOrchestrator
  | .decode .generator => connection.decodeGenerator
  | .flushed .orchestrator =>
      if connection.orchestrator.left = [] then connection.flushedOrchestrator else none
  | .flushed .generator =>
      if connection.generator.left = [] then connection.flushedGenerator else none
  | .close .orchestrator => some { connection with orchestratorAt := .closed }
  | .close .generator => some { connection with generatorAt := .closed }
  | .configure message =>
      if connection.orchestratorAt = .connected then do
        let orchestrator ← connection.orchestrator.send ⟨.configMessage, message⟩
        return { connection with
          orchestrator
          orchestratorAt := .sending (decide (message = .abort)) }
      else none
  | .command command =>
      match connection.orchestratorAt with
      | .ready => do
          let orchestrator ← connection.orchestrator.send ⟨.command, command⟩
          return { connection with orchestrator, orchestratorAt := .sendingCommand }
      | .started =>
          -- The command task sends one command after the other.
          if connection.orchestrator.left = [] then do
            let orchestrator ← connection.orchestrator.send ⟨.command, command⟩
            return { connection with orchestrator }
          else none
      | _ => none
  | .setUp outcome =>
      match connection.generatorAt, outcome with
      | .settingUp, .ok info => do
          let generator ← connection.generator.send ⟨.configResponse, .ready info⟩
          return { connection with generator, generatorAt := .sending true }
      | .settingUp, .error reason => do
          let generator ← connection.generator.send ⟨.configResponse, .setupFailed reason⟩
          return { connection with generator, generatorAt := .sending false }
      | _, _ => none
  | .update update =>
      match connection.generatorAt with
      | .started =>
          if connection.generator.left = [] then do
            let generator ← connection.generator.send ⟨.generatorUpdate, update⟩
            return { connection with generator }
          else none
      | _ => none

/-- Any orchestrator and any generator at the two ends. -/
def machine : Machine Connection Event where
  initial connection := connection = new
  step := step

end Connection

end CreoBench
