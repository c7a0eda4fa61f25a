import CreoBench.Connection
import CreoBench.Library.ListIndex

/-!
# No bytes are lost between two codecs

The frames of the messages that were sent are the bytes that were written and those
that are left to write.  Of the written bytes, those that were read are the frames
of the messages decoded so far and the read buffer.  The generator answers only
when it has decoded its configuration, and gets its command only when its answer is
decoded, so neither side can have sent more than one message when the other one
changes its codec.
-/

namespace CreoBench

open MessageFramer

namespace Packet

def payload (packet : Packet) : List UInt8 := (packet.1.codec.write packet.2).bytes

/-- The frame of a message. -/
def bytes (packet : Packet) : List UInt8 := headerBytes packet.payload.length ++ packet.payload

/-- The message can be encoded, and its frame fits in a buffer. -/
structure Fits (packet : Packet) : Prop where
  succeeds : (packet.1.codec.write packet.2).failure = none
  allocated : 12 + packet.payload.length ≤ isizeMax

/-- What the codec of the message makes of its frame. -/
def Arrives (packet : Packet) (arrived : Packet) : Prop :=
  ∃ message, arrived = ⟨packet.1, message⟩ ∧
    decode packet.1.codec packet.bytes = .frame message []

end Packet

def packetBytes (packets : List Packet) : List UInt8 := packets.flatMap Packet.bytes

@[simp]
theorem packetBytes_nil : packetBytes [] = [] := rfl

@[simp]
theorem packetBytes_cons (packet : Packet) (packets : List Packet) :
    packetBytes (packet :: packets) = packet.bytes ++ packetBytes packets := rfl

@[simp]
theorem packetBytes_append (first second : List Packet) :
    packetBytes (first ++ second) = packetBytes first ++ packetBytes second := by
  simp [packetBytes]

/-- What a payload decodes to does not depend on what follows it. -/
theorem payloadFrame_eq_frame {Mark : Type} {Fatal : Mark → Prop} {Payload : Type}
    {codec : Codec SerdeError Fatal Payload} {payload tail rest : List UInt8} {item : Payload}
    (found : payloadFrame codec payload tail = .frame item rest) :
    rest = tail ∧ payloadFrame codec payload [] = .frame item [] := by
  unfold payloadFrame at found ⊢
  split at found <;> cases found
  exact ⟨rfl, rfl⟩

theorem decode_bytes {packet : Packet} (fits : packet.Fits) (rest : List UInt8) :
    decode packet.1.codec (packet.bytes ++ rest) =
      payloadFrame packet.1.codec packet.payload rest :=
  decode_complete fits.allocated rest

/-- A message whose times survive the wire arrives as it was sent, up to its milliseconds. -/
theorem Packet.Arrives.eq_received {packet arrived : Packet} (arrives : packet.Arrives arrived)
    (fits : packet.Fits) (timesFit : packet.1.TimesFit packet.2) :
    arrived = ⟨packet.1, packet.1.received packet.2⟩ := by
  rcases arrives with ⟨message, rfl, decoded⟩
  have received := decode_frame fits.succeeds (packet.1.delivers timesFit) fits.allocated []
  rw [List.append_nil] at received
  cases received.symm.trans decoded
  rfl

/-- A message that is decoded is the first one that is under way. -/
theorem frame_of_decode {protocol : Protocol} {packets : List Packet}
    {buffer following rest : List UInt8} {message : protocol.Payload}
    (underWay : buffer ++ following = packetBytes packets)
    (fits : ∀ packet ∈ packets, packet.Fits)
    (expected : ∀ packet, packets.head? = some packet → packet.1 = protocol)
    (decoded : decode protocol.codec buffer = .frame message rest) :
    ∃ packet later, packets = packet :: later ∧ rest ++ following = packetBytes later ∧
      packet.Arrives ⟨protocol, message⟩ := by
  cases packets with
  | nil =>
      obtain ⟨rfl, -⟩ := List.append_eq_nil_iff.mp underWay
      cases decoded
  | cons packet later =>
      obtain rfl := expected packet rfl
      have packetFits := fits packet List.mem_cons_self
      rw [packetBytes_cons] at underWay
      by_cases complete : packet.bytes.length ≤ buffer.length
      · obtain ⟨tail, rfl⟩ : packet.bytes <+: buffer :=
          List.prefix_of_prefix_length_le ⟨_, rfl⟩ (underWay ▸ List.prefix_append _ _) complete
        rw [List.append_assoc] at underWay
        rw [decode_bytes packetFits] at decoded
        rcases payloadFrame_eq_frame decoded with ⟨rfl, alone⟩
        rw [← decode_bytes packetFits, List.append_nil] at alone
        exact ⟨packet, later, rfl, List.append_cancel_left underWay, message, rfl, alone⟩
      · -- The buffer ends within the first frame.
        have isPrefix : buffer <+: packet.bytes :=
          List.prefix_of_prefix_length_le (underWay ▸ List.prefix_append _ _) ⟨_, rfl⟩ (by omega)
        have short : buffer ≠ packet.bytes := fun same => complete (same ▸ Nat.le_refl _)
        rw [decode_incomplete packetFits.allocated isPrefix short] at decoded
        cases decoded

/-- A reader that has everything and waits has nothing. -/
theorem nil_of_decode {protocol : Protocol} {packets : List Packet} {buffer : List UInt8}
    (everything : buffer = packetBytes packets) (fits : ∀ packet ∈ packets, packet.Fits)
    (expected : ∀ packet, packets.head? = some packet → packet.1 = protocol)
    (waits : decode protocol.codec buffer = .incomplete) : packets = [] := by
  cases packets with
  | nil => rfl
  | cons packet later =>
      obtain rfl := expected packet rfl
      rw [everything, packetBytes_cons, decode_bytes (fits packet List.mem_cons_self)] at waits
      unfold payloadFrame at waits
      split at waits <;> cases waits

/-! ## The two directions -/

namespace Endpoint

/-- What has been sent is what was written and what is left to write. -/
structure Conserves (endpoint : Endpoint) : Prop where
  bytes : packetBytes endpoint.sent = endpoint.written ++ endpoint.left
  fits : ∀ packet ∈ endpoint.sent, packet.Fits

/-- What was read from the other side is what was decoded and the read buffer. -/
structure Follows (endpoint peer : Endpoint) : Prop where
  decodedSent : endpoint.decoded.length ≤ peer.sent.length
  takenWritten : endpoint.taken ≤ peer.written.length
  bytes : peer.written.take endpoint.taken =
    packetBytes (peer.sent.take endpoint.decoded.length) ++ endpoint.buffer
  arrives : ∀ (index : Nat) (packet arrived : Packet), peer.sent[index]? = some packet →
    endpoint.decoded[index]? = some arrived → packet.Arrives arrived

/-- What has not been decoded is in the read buffer, on the way, or left to write. -/
theorem Follows.underWay {endpoint peer : Endpoint} (follows : endpoint.Follows peer)
    (conserves : peer.Conserves) :
    endpoint.buffer ++ (peer.written.drop endpoint.taken ++ peer.left) =
      packetBytes (peer.sent.drop endpoint.decoded.length) := by
  have all := conserves.bytes
  rw [← List.take_append_drop endpoint.decoded.length peer.sent, packetBytes_append,
    ← List.take_append_drop endpoint.taken peer.written, follows.bytes, List.append_assoc,
    List.append_assoc] at all
  exact (List.append_cancel_left all).symm

theorem send_eq_some {endpoint next : Endpoint} {packet : Packet}
    (sent : endpoint.send packet = some next) :
    packet.Fits ∧
      next = { endpoint with sent := endpoint.sent ++ [packet], left := packet.bytes } := by
  unfold send at sent
  split at sent
  · rename_i bytes encoded
    split_ifs at sent with small
    obtain rfl := Option.some.inj sent
    have bytesEq := (encode_ok encoded).2.2
    rw [List.nil_append] at bytesEq
    have frameEq : bytes = packet.bytes := bytesEq
    have frameLength : bytes.length = MessageHeader.size + packet.payload.length := by
      rw [frameEq, Packet.bytes, List.length_append, length_headerBytes]
    refine ⟨⟨(encode_ok encoded).1, ?_⟩, by rw [frameEq]⟩
    rw [frameLength] at small
    exact small
  · cases sent

theorem Conserves.send {endpoint next : Endpoint} {packet : Packet}
    (conserves : endpoint.Conserves) (idle : endpoint.left = [])
    (sent : endpoint.send packet = some next) : next.Conserves := by
  rcases send_eq_some sent with ⟨fits, rfl⟩
  refine ⟨?_, fun other member => ?_⟩
  · change packetBytes (endpoint.sent ++ [packet]) = endpoint.written ++ packet.bytes
    rw [packetBytes_append, conserves.bytes, idle]
    simp
  · rcases List.mem_append.mp member with old | new
    · exact conserves.fits other old
    · obtain rfl := List.mem_singleton.mp new
      exact fits

theorem Conserves.write {endpoint : Endpoint} (conserves : endpoint.Conserves) (count : Nat) :
    (endpoint.write count).Conserves := by
  refine ⟨?_, conserves.fits⟩
  change packetBytes endpoint.sent =
    endpoint.written ++ endpoint.left.take count ++ endpoint.left.drop count
  rw [conserves.bytes, List.append_assoc, List.take_append_drop]

/-- The other side sends and writes more. -/
theorem Follows.mono {endpoint peer next : Endpoint} (follows : endpoint.Follows peer)
    (sent : peer.sent <+: next.sent) (written : peer.written <+: next.written) :
    endpoint.Follows next := by
  rcases sent with ⟨moreSent, sentEq⟩
  rcases written with ⟨moreWritten, writtenEq⟩
  refine ⟨?_, ?_, ?_, fun index packet arrived found decodedFound => ?_⟩
  · rw [← sentEq, List.length_append]
    exact follows.decodedSent.trans (Nat.le_add_right _ _)
  · rw [← writtenEq, List.length_append]
    exact follows.takenWritten.trans (Nat.le_add_right _ _)
  · rw [← sentEq, ← writtenEq, List.take_append_of_le_length follows.takenWritten,
      List.take_append_of_le_length follows.decodedSent]
    exact follows.bytes
  · have bound : index < peer.sent.length :=
      (List.getElem?_eq_some_iff.mp decodedFound).1.trans_le follows.decodedSent
    rw [← sentEq, List.getElem?_append_left bound] at found
    exact follows.arrives index packet arrived found decodedFound

theorem Follows.read {endpoint peer : Endpoint} (follows : endpoint.Follows peer)
    (count : Nat) : (endpoint.read peer.written count).Follows peer := by
  refine ⟨follows.decodedSent, ?_, ?_, follows.arrives⟩
  · change endpoint.taken + ((peer.written.drop endpoint.taken).take count).length ≤ _
    rw [List.length_take, List.length_drop]
    have within := follows.takenWritten
    omega
  · change peer.written.take (endpoint.taken +
        ((peer.written.drop endpoint.taken).take count).length) =
      packetBytes (peer.sent.take endpoint.decoded.length) ++
        (endpoint.buffer ++ (peer.written.drop endpoint.taken).take count)
    rw [List.take_add, ← List.append_assoc, ← follows.bytes, List.length_take,
      ← List.take_eq_take_min]

/-- The next message is decoded; the buffer is empty after the last one. -/
theorem Follows.decodedTo {endpoint peer : Endpoint} {protocol : Protocol}
    {message : protocol.Payload} {rest : List UInt8} (follows : endpoint.Follows peer)
    (conserves : peer.Conserves)
    (expected : ∀ packet, peer.sent[endpoint.decoded.length]? = some packet →
      packet.1 = protocol)
    (decoded : endpoint.decode protocol = .frame message rest) :
    (endpoint.decodedTo ⟨protocol, message⟩ rest).Follows peer ∧
      (peer.sent.length ≤ endpoint.decoded.length + 1 → rest = []) := by
  have underWay := follows.underWay conserves
  have headEq : (peer.sent.drop endpoint.decoded.length).head? =
      peer.sent[endpoint.decoded.length]? := List.head?_drop ..
  rcases frame_of_decode underWay
    (fun packet member => conserves.fits packet (List.mem_of_mem_drop member))
    (fun packet found => expected packet (headEq ▸ found)) decoded with
    ⟨packet, later, dropEq, restEq, arrives⟩
  have found : peer.sent[endpoint.decoded.length]? = some packet := by
    rw [← headEq, dropEq]
    rfl
  rcases List.getElem?_eq_some_iff.mp found with ⟨bound, getEq⟩
  have laterEq : peer.sent.drop (endpoint.decoded.length + 1) = later := by
    rw [← List.drop_drop, dropEq]
    rfl
  refine ⟨⟨?_, follows.takenWritten, ?_, fun index sent arrived sentFound decodedFound => ?_⟩,
    fun last => ?_⟩
  · change (endpoint.decoded ++ [_]).length ≤ _
    rw [List.length_append]
    exact bound
  · change peer.written.take endpoint.taken =
      packetBytes (peer.sent.take (endpoint.decoded ++ [_]).length) ++ rest
    have all : packetBytes (peer.sent.take (endpoint.decoded.length + 1)) ++ rest ++
        (peer.written.drop endpoint.taken ++ peer.left) =
          peer.written.take endpoint.taken ++ (peer.written.drop endpoint.taken ++ peer.left) :=
      calc
        _ = packetBytes (peer.sent.take (endpoint.decoded.length + 1)) ++ packetBytes later := by
          rw [List.append_assoc, restEq]
        _ = packetBytes peer.sent := by
          rw [← laterEq, ← packetBytes_append, List.take_append_drop]
        _ = peer.written ++ peer.left := conserves.bytes
        _ = _ := by rw [← List.append_assoc, List.take_append_drop]
    rw [List.length_append]
    exact (List.append_cancel_right all).symm
  · change (endpoint.decoded ++ [_])[index]? = some arrived at decodedFound
    rcases List.getElem?_concat_eq_some.mp decodedFound with old | ⟨rfl, rfl⟩
    · exact follows.arrives index sent arrived sentFound old
    · rw [found] at sentFound
      cases sentFound
      exact arrives
  · have none : later = [] := by
      rw [← laterEq]
      exact List.drop_eq_nil_of_le last
    rw [none] at restEq
    exact (List.append_eq_nil_iff.mp restEq).1

/-- Nothing is discarded with an empty buffer. -/
theorem Follows.intoInner {endpoint peer : Endpoint} (follows : endpoint.Follows peer)
    (empty : endpoint.buffer = []) : endpoint.intoInner.Follows peer := by
  refine ⟨follows.decodedSent, follows.takenWritten, ?_, follows.arrives⟩
  have bytes := follows.bytes
  rw [empty] at bytes
  exact bytes

end Endpoint

/-! ## The handshake -/

namespace Connection

/-- How many messages the orchestrator has sent and decoded. -/
def Orchestrator.Counts (endpoint : Endpoint) : Orchestrator → Prop
  | .connected => endpoint.sent.length = 0 ∧ endpoint.decoded.length = 0 ∧ endpoint.left = []
  | .sending _ => endpoint.sent.length = 1 ∧ endpoint.decoded.length = 0
  | .awaiting _ => endpoint.sent.length = 1 ∧ endpoint.decoded.length = 0 ∧ endpoint.left = []
  | .ready => endpoint.sent.length = 1 ∧ endpoint.decoded.length = 1 ∧ endpoint.left = []
  | .sendingCommand => endpoint.sent.length = 2 ∧ endpoint.decoded.length = 1
  | .started => 2 ≤ endpoint.sent.length ∧ 1 ≤ endpoint.decoded.length
  | .closed => 2 ≤ endpoint.sent.length → 1 ≤ endpoint.decoded.length

/-- How many messages the generator has sent and decoded. -/
def Generator.Counts (endpoint : Endpoint) : Generator → Prop
  | .waitForConfig => endpoint.sent.length = 0 ∧ endpoint.decoded.length = 0 ∧ endpoint.left = []
  | .settingUp =>
      endpoint.sent.length = 0 ∧ endpoint.decoded.length = 1 ∧ endpoint.left = [] ∧
        endpoint.buffer = []
  | .sending _ =>
      endpoint.sent.length = 1 ∧ endpoint.decoded.length = 1 ∧ endpoint.buffer = []
  | .waitForCommand => endpoint.sent.length = 1 ∧ endpoint.decoded.length = 1 ∧ endpoint.left = []
  | .started => 1 ≤ endpoint.sent.length ∧ endpoint.decoded.length = 2
  | .closed => (1 ≤ endpoint.sent.length → 1 ≤ endpoint.decoded.length) ∧
      (2 ≤ endpoint.sent.length → 2 ≤ endpoint.decoded.length)

/-- The codec of the message at each index. -/
def Speaks (first later : Protocol) (packets : List Packet) : Prop :=
  ∀ (index : Nat) (packet : Packet), packets[index]? = some packet →
    packet.1 = if index = 0 then first else later

/-- The invariant of all runs. -/
structure Sound (connection : Connection) : Prop where
  orchestratorOut : connection.orchestrator.Conserves
  generatorOut : connection.generator.Conserves
  orchestratorIn : connection.orchestrator.Follows connection.generator
  generatorIn : connection.generator.Follows connection.orchestrator
  orchestratorSpeaks : Speaks .configMessage .command connection.orchestrator.sent
  generatorSpeaks : Speaks .configResponse .generatorUpdate connection.generator.sent
  orchestratorCounts : connection.orchestratorAt.Counts connection.orchestrator
  generatorCounts : connection.generatorAt.Counts connection.generator
  discarded : ∀ buffer ∈ connection.orchestrator.discarded ++ connection.generator.discarded,
    buffer = []

theorem Orchestrator.Counts.closed {endpoint : Endpoint} {position : Orchestrator}
    (counts : position.Counts endpoint) : Orchestrator.closed.Counts endpoint := by
  intro several
  cases position <;> simp only [Orchestrator.Counts] at counts <;> omega

theorem Generator.Counts.closed {endpoint : Endpoint} {position : Generator}
    (counts : position.Counts endpoint) : Generator.closed.Counts endpoint := by
  constructor <;> intro several <;> cases position <;>
    simp only [Generator.Counts] at counts <;> omega

/-- While the orchestrator has not decoded the response, nothing follows it. -/
theorem Sound.generator_sent_le {connection : Connection} (sound : connection.Sound)
    (undecoded : connection.orchestrator.decoded.length = 0) :
    connection.generator.sent.length ≤ 1 := by
  have orchestrator := sound.orchestratorCounts.closed
  have generator := sound.generatorCounts.closed
  have follows := sound.generatorIn.decodedSent
  by_contra several
  have decoded := generator.2 (by omega)
  have sent := orchestrator (by omega)
  omega

/-- While the generator has not decoded its configuration, nothing follows it. -/
theorem Sound.orchestrator_sent_le {connection : Connection} (sound : connection.Sound)
    (undecoded : connection.generator.decoded.length = 0) :
    connection.orchestrator.sent.length ≤ 1 := by
  have orchestrator := sound.orchestratorCounts.closed
  have generator := sound.generatorCounts.closed
  have follows := sound.orchestratorIn.decodedSent
  by_contra several
  have decoded := orchestrator (by omega)
  have sent := generator.1 (by omega)
  omega

theorem Speaks.append {first later : Protocol} {packets : List Packet} {packet : Packet}
    (speaks : Speaks first later packets)
    (next : packet.1 = if packets.length = 0 then first else later) :
    Speaks first later (packets ++ [packet]) := by
  intro index other found
  rcases List.getElem?_concat_eq_some.mp found with old | ⟨rfl, rfl⟩
  · exact speaks index other old
  · exact next

theorem sound_new : new.Sound := by
  have conserves : Endpoint.new.Conserves := ⟨rfl, by rintro _ ⟨⟩⟩
  have follows : Endpoint.new.Follows .new :=
    ⟨Nat.le_refl _, Nat.le_refl _, rfl, fun _ _ _ _ decoded => by cases decoded⟩
  have silent : ∀ first later, Speaks first later [] := fun _ _ _ _ found => by cases found
  exact ⟨conserves, conserves, follows, follows, silent _ _, silent _ _, ⟨rfl, rfl, rfl⟩,
    ⟨rfl, rfl, rfl⟩, by rintro _ ⟨⟩⟩

/-- A step of the orchestrator. -/
theorem Sound.orchestrator {connection : Connection} {next : Endpoint} {position : Orchestrator}
    (sound : connection.Sound) (conserves : next.Conserves)
    (sent : connection.orchestrator.sent <+: next.sent)
    (written : connection.orchestrator.written <+: next.written)
    (follows : next.Follows connection.generator)
    (speaks : Speaks .configMessage .command next.sent) (counts : position.Counts next)
    (discarded : ∀ buffer ∈ next.discarded, buffer = []) :
    { connection with orchestrator := next, orchestratorAt := position }.Sound := by
  refine ⟨conserves, sound.generatorOut, follows, sound.generatorIn.mono sent written, speaks,
    sound.generatorSpeaks, counts, sound.generatorCounts, fun buffer member => ?_⟩
  rcases List.mem_append.mp member with mine | other
  · exact discarded buffer mine
  · exact sound.discarded buffer (List.mem_append_right _ other)

/-- A step of the generator. -/
theorem Sound.generator {connection : Connection} {next : Endpoint} {position : Generator}
    (sound : connection.Sound) (conserves : next.Conserves)
    (sent : connection.generator.sent <+: next.sent)
    (written : connection.generator.written <+: next.written)
    (follows : next.Follows connection.orchestrator)
    (speaks : Speaks .configResponse .generatorUpdate next.sent) (counts : position.Counts next)
    (discarded : ∀ buffer ∈ next.discarded, buffer = []) :
    { connection with generator := next, generatorAt := position }.Sound := by
  refine ⟨sound.orchestratorOut, conserves, sound.orchestratorIn.mono sent written, follows,
    sound.orchestratorSpeaks, speaks, sound.orchestratorCounts, counts, fun buffer member => ?_⟩
  rcases List.mem_append.mp member with other | mine
  · exact sound.discarded buffer (List.mem_append_left _ other)
  · exact discarded buffer mine

theorem Sound.orchestrator_discarded {connection : Connection} (sound : connection.Sound) :
    ∀ buffer ∈ connection.orchestrator.discarded, buffer = [] :=
  fun buffer member => sound.discarded buffer (List.mem_append_left _ member)

theorem Sound.generator_discarded {connection : Connection} (sound : connection.Sound) :
    ∀ buffer ∈ connection.generator.discarded, buffer = [] :=
  fun buffer member => sound.discarded buffer (List.mem_append_right _ member)

/-- The orchestrator moves on without touching the stream. -/
theorem Sound.orchestratorGoto {connection : Connection} {position : Orchestrator}
    (sound : connection.Sound) (counts : position.Counts connection.orchestrator) :
    { connection with orchestratorAt := position }.Sound :=
  sound.orchestrator sound.orchestratorOut (List.prefix_refl _) (List.prefix_refl _)
    sound.orchestratorIn sound.orchestratorSpeaks counts sound.orchestrator_discarded

theorem Sound.generatorGoto {connection : Connection} {position : Generator}
    (sound : connection.Sound) (counts : position.Counts connection.generator) :
    { connection with generatorAt := position }.Sound :=
  sound.generator sound.generatorOut (List.prefix_refl _) (List.prefix_refl _)
    sound.generatorIn sound.generatorSpeaks counts sound.generator_discarded

/-- The orchestrator begins to send a message. -/
theorem Sound.orchestratorSend {connection : Connection} {next : Endpoint} {packet : Packet}
    {position : Orchestrator} (sound : connection.Sound)
    (idle : connection.orchestrator.left = [])
    (speaks : packet.1 = if connection.orchestrator.sent.length = 0 then .configMessage
      else .command)
    (sent : connection.orchestrator.send packet = some next)
    (counts : next.sent.length = connection.orchestrator.sent.length + 1 →
      next.decoded = connection.orchestrator.decoded → position.Counts next) :
    { connection with orchestrator := next, orchestratorAt := position }.Sound := by
  have conserves := sound.orchestratorOut.send idle sent
  rcases Endpoint.send_eq_some sent with ⟨-, rfl⟩
  exact sound.orchestrator conserves (List.prefix_append _ _) (List.prefix_refl _)
    ⟨sound.orchestratorIn.decodedSent, sound.orchestratorIn.takenWritten,
      sound.orchestratorIn.bytes, sound.orchestratorIn.arrives⟩
    (sound.orchestratorSpeaks.append speaks) (counts List.length_append rfl)
    sound.orchestrator_discarded

/-- The generator begins to send a message. -/
theorem Sound.generatorSend {connection : Connection} {next : Endpoint} {packet : Packet}
    {position : Generator} (sound : connection.Sound) (idle : connection.generator.left = [])
    (speaks : packet.1 = if connection.generator.sent.length = 0 then .configResponse
      else .generatorUpdate)
    (sent : connection.generator.send packet = some next)
    (counts : next.sent.length = connection.generator.sent.length + 1 →
      next.decoded = connection.generator.decoded →
        next.buffer = connection.generator.buffer → position.Counts next) :
    { connection with generator := next, generatorAt := position }.Sound := by
  have conserves := sound.generatorOut.send idle sent
  rcases Endpoint.send_eq_some sent with ⟨-, rfl⟩
  exact sound.generator conserves (List.prefix_append _ _) (List.prefix_refl _)
    ⟨sound.generatorIn.decodedSent, sound.generatorIn.takenWritten,
      sound.generatorIn.bytes, sound.generatorIn.arrives⟩
    (sound.generatorSpeaks.append speaks) (counts List.length_append rfl rfl)
    sound.generator_discarded

theorem Orchestrator.Counts.write {endpoint : Endpoint} {position : Orchestrator}
    (counts : position.Counts endpoint) (count : Nat) :
    position.Counts (endpoint.write count) := by
  cases position with
  | connected | awaiting | ready =>
      refine ⟨counts.1, counts.2.1, ?_⟩
      change endpoint.left.drop count = []
      rw [counts.2.2, List.drop_nil]
  | sending | sendingCommand | started | closed => exact counts

theorem Generator.Counts.write {endpoint : Endpoint} {position : Generator}
    (counts : position.Counts endpoint) (count : Nat) :
    position.Counts (endpoint.write count) := by
  cases position with
  | waitForConfig | waitForCommand =>
      refine ⟨counts.1, counts.2.1, ?_⟩
      change endpoint.left.drop count = []
      rw [counts.2.2, List.drop_nil]
  | settingUp =>
      refine ⟨counts.1, counts.2.1, ?_, counts.2.2.2⟩
      change endpoint.left.drop count = []
      rw [counts.2.2.1, List.drop_nil]
  | sending | started | closed => exact counts

theorem Sound.write {connection next : Connection} {side : Side} {count : Nat}
    (sound : connection.Sound) (stepped : connection.step (.write side count) = some next) :
    next.Sound := by
  cases side <;> simp only [Connection.step] at stepped <;> split_ifs at stepped <;> cases stepped
  · exact sound.orchestrator (sound.orchestratorOut.write count) (List.prefix_refl _)
      (List.prefix_append _ _)
      ⟨sound.orchestratorIn.decodedSent, sound.orchestratorIn.takenWritten,
        sound.orchestratorIn.bytes, sound.orchestratorIn.arrives⟩
      sound.orchestratorSpeaks (sound.orchestratorCounts.write count) sound.orchestrator_discarded
  · exact sound.generator (sound.generatorOut.write count) (List.prefix_refl _)
      (List.prefix_append _ _)
      ⟨sound.generatorIn.decodedSent, sound.generatorIn.takenWritten,
        sound.generatorIn.bytes, sound.generatorIn.arrives⟩
      sound.generatorSpeaks (sound.generatorCounts.write count) sound.generator_discarded

theorem Sound.read {connection next : Connection} {side : Side} {count : Nat}
    (sound : connection.Sound) (stepped : connection.step (.read side count) = some next) :
    next.Sound := by
  cases side <;> simp only [Connection.step] at stepped <;> split_ifs at stepped with reads <;>
    cases stepped
  · refine sound.orchestrator ⟨sound.orchestratorOut.bytes, sound.orchestratorOut.fits⟩
      (List.prefix_refl _) (List.prefix_refl _) (sound.orchestratorIn.read count)
      sound.orchestratorSpeaks ?_ sound.orchestrator_discarded
    have counts := sound.orchestratorCounts
    cases positionEq : connection.orchestratorAt <;> rw [positionEq] at counts <;> exact counts
  · refine sound.generator ⟨sound.generatorOut.bytes, sound.generatorOut.fits⟩
      (List.prefix_refl _) (List.prefix_refl _) (sound.generatorIn.read count)
      sound.generatorSpeaks ?_ sound.generator_discarded
    have counts := sound.generatorCounts
    cases positionEq : connection.generatorAt <;> rw [positionEq] at counts reads <;>
      first | exact counts | cases reads

/-- What the codec of a position expects of the next message. -/
theorem Sound.orchestrator_expects {connection : Connection} (sound : connection.Sound)
    (packet : Packet)
    (found : connection.generator.sent[connection.orchestrator.decoded.length]? = some packet) :
    packet.1 = if connection.orchestrator.decoded.length = 0 then .configResponse
      else .generatorUpdate :=
  sound.generatorSpeaks _ packet found

theorem Sound.generator_expects {connection : Connection} (sound : connection.Sound)
    (packet : Packet)
    (found : connection.orchestrator.sent[connection.generator.decoded.length]? = some packet) :
    packet.1 = if connection.generator.decoded.length = 0 then .configMessage
      else .command :=
  sound.orchestratorSpeaks _ packet found

/-- The orchestrator decodes its response, after which nothing is in its buffer. -/
theorem Sound.respond {connection : Connection} {abort : Bool} {response : ConfigResponse}
    {rest : List UInt8} (sound : connection.Sound)
    (awaiting : connection.orchestratorAt = .awaiting abort)
    (found : connection.orchestrator.decode .configResponse = .frame response rest) :
    ({ connection with
      orchestrator := connection.orchestrator.decodedTo ⟨.configResponse, response⟩
        rest }.respond abort response).Sound := by
  have counts := sound.orchestratorCounts
  rw [awaiting] at counts
  rcases counts with ⟨sent, undecoded, idle⟩
  have expected := sound.orchestrator_expects
  rw [if_pos undecoded] at expected
  rcases sound.orchestratorIn.decodedTo sound.generatorOut expected found with ⟨follows, last⟩
  have alone := sound.generator_sent_le undecoded
  obtain rfl := last (by omega)
  have decoded : (connection.orchestrator.decodedTo ⟨.configResponse, response⟩ []).decoded.length =
      1 := by
    change (connection.orchestrator.decoded ++ [_]).length = 1
    rw [List.length_append, undecoded]
    rfl
  have closes : { connection with
      orchestrator := connection.orchestrator.decodedTo ⟨.configResponse, response⟩ []
      orchestratorAt := .closed }.Sound :=
    sound.orchestrator ⟨sound.orchestratorOut.bytes, sound.orchestratorOut.fits⟩
      (List.prefix_refl _) (List.prefix_refl _) follows sound.orchestratorSpeaks
      (fun _ => decoded.ge) sound.orchestrator_discarded
  cases response with
  | setupFailed reason | aborted => exact closes
  | ready info =>
      unfold Connection.respond
      dsimp only
      split_ifs
      · exact closes
      · refine sound.orchestrator ⟨sound.orchestratorOut.bytes, sound.orchestratorOut.fits⟩
          (List.prefix_refl _) (List.prefix_refl _) (follows.intoInner rfl)
          sound.orchestratorSpeaks ⟨sent, decoded, idle⟩ fun buffer member => ?_
        rcases List.mem_append.mp member with old | new
        · exact sound.orchestrator_discarded buffer old
        · exact List.mem_singleton.mp new

theorem Sound.decodeOrchestrator {connection next : Connection} (sound : connection.Sound)
    (stepped : connection.decodeOrchestrator = some next) : next.Sound := by
  unfold Connection.decodeOrchestrator at stepped
  split at stepped
  · rename_i abort positionEq
    split at stepped <;> cases stepped
    · rename_i response rest found
      exact sound.respond positionEq found
    · exact sound.orchestratorGoto sound.orchestratorCounts.closed
  · rename_i positionEq
    split at stepped <;> cases stepped
    · rename_i update rest found
      have counts := sound.orchestratorCounts
      rw [positionEq] at counts
      have expected := sound.orchestrator_expects
      rw [if_neg (Nat.pos_iff_ne_zero.mp counts.2)] at expected
      rcases sound.orchestratorIn.decodedTo sound.generatorOut expected found with ⟨follows, -⟩
      refine sound.orchestrator ⟨sound.orchestratorOut.bytes, sound.orchestratorOut.fits⟩
        (List.prefix_refl _) (List.prefix_refl _) follows sound.orchestratorSpeaks ?_
        sound.orchestrator_discarded
      rw [positionEq]
      refine ⟨counts.1, counts.2.trans ?_⟩
      change _ ≤ (connection.orchestrator.decoded ++ [_]).length
      rw [List.length_append]
      exact Nat.le_add_right _ _
    · exact sound.orchestratorGoto sound.orchestratorCounts.closed
  · cases stepped

/-- The generator decodes its configuration, after which nothing is in its buffer. -/
theorem Sound.configured {connection next : Connection} {message : ConfigMessage}
    {rest : List UInt8} (sound : connection.Sound)
    (waiting : connection.generatorAt = .waitForConfig)
    (found : connection.generator.decode .configMessage = .frame message rest)
    (stepped : { connection with
      generator := connection.generator.decodedTo ⟨.configMessage, message⟩
        rest }.configured message = some next) : next.Sound := by
  have counts := sound.generatorCounts
  rw [waiting] at counts
  rcases counts with ⟨unsent, undecoded, idle⟩
  have expected := sound.generator_expects
  rw [if_pos undecoded] at expected
  rcases sound.generatorIn.decodedTo sound.orchestratorOut expected found with ⟨follows, last⟩
  have alone := sound.orchestrator_sent_le undecoded
  obtain rfl := last (by omega)
  have decoded : (connection.generator.decodedTo ⟨.configMessage, message⟩ []).decoded.length =
      1 := by
    change (connection.generator.decoded ++ [_]).length = 1
    rw [List.length_append, undecoded]
    rfl
  have settingUp : { connection with
      generator := connection.generator.decodedTo ⟨.configMessage, message⟩ []
      generatorAt := .settingUp }.Sound :=
    sound.generator ⟨sound.generatorOut.bytes, sound.generatorOut.fits⟩
      (List.prefix_refl _) (List.prefix_refl _) follows sound.generatorSpeaks
      ⟨unsent, decoded, idle, rfl⟩ sound.generator_discarded
  cases message with
  | config config =>
      cases stepped
      exact settingUp
  | abort =>
      unfold Connection.configured at stepped
      rcases Option.bind_eq_some_iff.mp stepped with ⟨generator, sent, made⟩
      obtain rfl := Option.some.inj made
      refine settingUp.generatorSend idle ?_ sent
        fun sentLength decodedEq bufferEq => ⟨?_, ?_, bufferEq⟩
      · exact (if_pos unsent).symm
      · rw [sentLength]
        exact congrArg (· + 1) unsent
      · rw [decodedEq]
        exact decoded

theorem Sound.commanded {connection : Connection} {command : Command} {rest : List UInt8}
    (sound : connection.Sound) (waiting : connection.generatorAt = .waitForCommand)
    (found : connection.generator.decode .command = .frame command rest) :
    ({ connection with
      generator := connection.generator.decodedTo ⟨.command, command⟩
        rest }.commanded command).Sound := by
  have counts := sound.generatorCounts
  rw [waiting] at counts
  rcases counts with ⟨sent, decodedOne, idle⟩
  have expected := sound.generator_expects
  rw [if_neg (by omega)] at expected
  rcases sound.generatorIn.decodedTo sound.orchestratorOut expected found with ⟨follows, -⟩
  have decoded : (connection.generator.decodedTo ⟨.command, command⟩ rest).decoded.length = 2 := by
    change (connection.generator.decoded ++ [_]).length = 2
    rw [List.length_append, decodedOne]
    rfl
  cases command <;>
    refine sound.generator ⟨sound.generatorOut.bytes, sound.generatorOut.fits⟩
      (List.prefix_refl _) (List.prefix_refl _) follows sound.generatorSpeaks ?_
      sound.generator_discarded
  · exact ⟨sent.ge, decoded⟩
  · exact ⟨fun _ => decoded.symm ▸ Nat.le_succ 1, fun _ => decoded.ge⟩

theorem Sound.decodeGenerator {connection next : Connection} (sound : connection.Sound)
    (stepped : connection.decodeGenerator = some next) : next.Sound := by
  unfold Connection.decodeGenerator at stepped
  split at stepped
  · rename_i positionEq
    split at stepped
    · rename_i message rest found
      exact sound.configured positionEq found stepped
    · cases stepped
      exact sound.generatorGoto sound.generatorCounts.closed
    · cases stepped
  · rename_i positionEq
    split at stepped <;> cases stepped
    · rename_i command rest found
      exact sound.commanded positionEq found
    · exact sound.generatorGoto sound.generatorCounts.closed
  · cases stepped

theorem Sound.flushed {connection next : Connection} {side : Side} (sound : connection.Sound)
    (stepped : connection.step (.flushed side) = some next) : next.Sound := by
  have orchestrator := sound.orchestratorCounts
  have generator := sound.generatorCounts
  cases side <;> simp only [Connection.step] at stepped <;> split_ifs at stepped with idle
  · unfold flushedOrchestrator at stepped
    split at stepped <;> cases stepped <;> rename_i positionEq <;> rw [positionEq] at orchestrator
    · exact sound.orchestratorGoto ⟨orchestrator.1, orchestrator.2, idle⟩
    · exact sound.orchestratorGoto ⟨orchestrator.1.ge, orchestrator.2.ge⟩
  · unfold flushedGenerator at stepped
    split at stepped <;> cases stepped <;> rename_i positionEq <;> rw [positionEq] at generator
    · rcases generator with ⟨sent, decoded, empty⟩
      refine sound.generator ⟨sound.generatorOut.bytes, sound.generatorOut.fits⟩
        (List.prefix_refl _) (List.prefix_refl _) (sound.generatorIn.intoInner empty)
        sound.generatorSpeaks ⟨sent, decoded, idle⟩ fun buffer member => ?_
      rcases List.mem_append.mp member with old | new
      · exact sound.generator_discarded buffer old
      · exact (List.mem_singleton.mp new).trans empty
    · exact sound.generatorGoto (Generator.Counts.closed generator)

theorem Sound.step {connection next : Connection} {event : Event} (sound : connection.Sound)
    (stepped : connection.step event = some next) : next.Sound := by
  have orchestrator := sound.orchestratorCounts
  have generator := sound.generatorCounts
  cases event with
  | write side count => exact sound.write stepped
  | read side count => exact sound.read stepped
  | decode side =>
      cases side with
      | orchestrator => exact sound.decodeOrchestrator stepped
      | generator => exact sound.decodeGenerator stepped
  | flushed side => exact sound.flushed stepped
  | close side =>
      cases side <;> cases stepped
      · exact sound.orchestratorGoto orchestrator.closed
      · exact sound.generatorGoto generator.closed
  | configure message =>
      simp only [Connection.step] at stepped
      split_ifs at stepped with connected
      rw [connected] at orchestrator
      rcases Option.bind_eq_some_iff.mp stepped with ⟨endpoint, sent, made⟩
      obtain rfl := Option.some.inj made
      refine sound.orchestratorSend orchestrator.2.2 (if_pos orchestrator.1).symm sent
        fun sentLength decodedEq => ⟨?_, ?_⟩
      · rw [sentLength, orchestrator.1]
      · rw [decodedEq, orchestrator.2.1]
  | command command =>
      simp only [Connection.step] at stepped
      split at stepped
      · rename_i ready
        rw [ready] at orchestrator
        rcases Option.bind_eq_some_iff.mp stepped with ⟨endpoint, sent, made⟩
        obtain rfl := Option.some.inj made
        refine sound.orchestratorSend orchestrator.2.2 (if_neg ?_).symm sent
          fun sentLength decodedEq => ⟨?_, ?_⟩
        · rw [orchestrator.1]
          exact Nat.one_ne_zero
        · rw [sentLength, orchestrator.1]
        · rw [decodedEq, orchestrator.2.1]
      · rename_i started
        split_ifs at stepped with idle
        rcases Option.bind_eq_some_iff.mp stepped with ⟨endpoint, sent, made⟩
        obtain rfl := Option.some.inj made
        rw [started] at orchestrator ⊢
        refine sound.orchestratorSend idle (if_neg ?_).symm sent
          fun sentLength decodedEq => ⟨?_, ?_⟩
        · exact Nat.ne_of_gt (Nat.lt_of_succ_lt orchestrator.1)
        · rw [sentLength]
          exact orchestrator.1.trans (Nat.le_succ _)
        · rw [decodedEq]
          exact orchestrator.2
      · cases stepped
  | setUp outcome =>
      simp only [Connection.step] at stepped
      split at stepped
      case h_3 => cases stepped
      all_goals
        rename_i settingUp
        rw [settingUp] at generator
        rcases generator with ⟨unsent, decoded, idle, empty⟩
        rcases Option.bind_eq_some_iff.mp stepped with ⟨endpoint, sent, made⟩
        obtain rfl := Option.some.inj made
        refine sound.generatorSend idle (if_pos unsent).symm sent
          fun sentLength decodedEq bufferEq => ⟨?_, ?_, bufferEq.trans empty⟩
        · rw [sentLength, unsent]
        · rw [decodedEq, decoded]
  | update update =>
      simp only [Connection.step] at stepped
      split at stepped
      · rename_i started
        split_ifs at stepped with idle
        rcases Option.bind_eq_some_iff.mp stepped with ⟨endpoint, sent, made⟩
        obtain rfl := Option.some.inj made
        rw [started] at generator ⊢
        refine sound.generatorSend idle (if_neg ?_).symm sent
          fun sentLength decodedEq _ => ⟨?_, ?_⟩
        · exact Nat.ne_of_gt generator.1
        · rw [sentLength]
          exact generator.1.trans (Nat.le_succ _)
        · rw [decodedEq, generator.2]
      · cases stepped

theorem sound_of_reachable {connection : Connection}
    (reachable : machine.Reachable connection) : connection.Sound := by
  apply reachable.invariant
  · rintro _ rfl
    exact sound_new
  · intro _ _ _ sound _ stepped
    exact sound.step stepped

/-- What `endpoint`, which reads with this codec if at all, has got of its peer: the messages
in order, each out of its own frame, and nothing else; and all of them once it waits in vain
with everything read. -/
def Delivers (endpoint peer : Endpoint) (reads : Option Protocol) : Prop :=
  endpoint.decoded.length ≤ peer.sent.length ∧
  (∀ (index : Nat) (packet arrived : Packet), peer.sent[index]? = some packet →
    endpoint.decoded[index]? = some arrived → packet.Arrives arrived ∧
      (packet.1.TimesFit packet.2 → arrived = ⟨packet.1, packet.1.received packet.2⟩)) ∧
  endpoint.buffer ++ (peer.written.drop endpoint.taken ++ peer.left) =
    packetBytes (peer.sent.drop endpoint.decoded.length) ∧
  ∀ protocol, reads = some protocol → endpoint.taken = peer.written.length → peer.left = [] →
    endpoint.decode protocol = .incomplete → endpoint.decoded.length = peer.sent.length

theorem delivers_of_follows {endpoint peer : Endpoint} {reads : Option Protocol}
    (follows : endpoint.Follows peer) (conserves : peer.Conserves)
    (expected : ∀ protocol, reads = some protocol → ∀ packet,
      peer.sent[endpoint.decoded.length]? = some packet → packet.1 = protocol) :
    Delivers endpoint peer reads := by
  have underWay := follows.underWay conserves
  refine ⟨follows.decodedSent, ?_, underWay, ?_⟩
  · intro index packet arrived found decoded
    have arrives := follows.arrives index packet arrived found decoded
    exact ⟨arrives, arrives.eq_received (conserves.fits packet (List.mem_of_getElem? found))⟩
  · intro protocol reading everything nothingLeft waits
    rw [everything, List.drop_length, nothingLeft, List.append_nil, List.append_nil] at underWay
    have none := nil_of_decode underWay
      (fun packet member => conserves.fits packet (List.mem_of_mem_drop member))
      (fun packet head => expected protocol reading packet (List.head?_drop ▸ head)) waits
    exact Nat.le_antisymm follows.decodedSent (List.drop_eq_nil_iff.mp none)

/-- The codec with which the orchestrator reads is that of the next message. -/
theorem Sound.orchestrator_reads {connection : Connection} (sound : connection.Sound)
    (protocol : Protocol) (reading : connection.orchestratorAt.reads = some protocol)
    (packet : Packet)
    (found : connection.generator.sent[connection.orchestrator.decoded.length]? = some packet) :
    packet.1 = protocol := by
  have counts := sound.orchestratorCounts
  rw [sound.orchestrator_expects packet found]
  cases positionEq : connection.orchestratorAt <;> rw [positionEq] at counts reading <;>
    cases reading
  case awaiting abort => exact if_pos counts.2.1
  case started => exact if_neg (Nat.ne_of_gt counts.2)

theorem Sound.generator_reads {connection : Connection} (sound : connection.Sound)
    (protocol : Protocol) (reading : connection.generatorAt.reads = some protocol)
    (packet : Packet)
    (found : connection.orchestrator.sent[connection.generator.decoded.length]? = some packet) :
    packet.1 = protocol := by
  have counts := sound.generatorCounts
  rw [sound.generator_expects packet found]
  cases positionEq : connection.generatorAt <;> rw [positionEq] at counts reading <;>
    cases reading
  case waitForConfig => exact if_pos counts.2.1
  case waitForCommand =>
    refine if_neg ?_
    rw [counts.2.1]
    exact Nat.one_ne_zero

/-- Every read buffer that is discarded is empty, and both sides get each other's messages
in order with the codecs of their own, however the bytes are cut and delayed. -/
theorem no_bytes_lost {connection : Connection} (reachable : machine.Reachable connection) :
    (∀ buffer ∈ connection.orchestrator.discarded ++ connection.generator.discarded,
      buffer = []) ∧
    Delivers connection.orchestrator connection.generator connection.orchestratorAt.reads ∧
    Delivers connection.generator connection.orchestrator connection.generatorAt.reads := by
  have sound := sound_of_reachable reachable
  exact ⟨sound.discarded,
    delivers_of_follows sound.orchestratorIn sound.generatorOut sound.orchestrator_reads,
    delivers_of_follows sound.generatorIn sound.orchestratorOut sound.generator_reads⟩

section EarlyStart

private def smallConfig : LoadGeneratorConfig where
  profile := ⟨[]⟩
  script := ""
  registry := ⟨.empty⟩
  warmup := ⟨0, 0, 0⟩
  virtualUserCount := 1
  seed := 0
  timeoutMs := 0
  loadGeneratorId := ⟨0⟩

/-- The command is written while the generator is still in `send`, and arrives in two
pieces. -/
private def earlyStart : List Event :=
  [.configure (.config smallConfig), .write .orchestrator 5, .read .generator 5,
    .write .orchestrator 1000, .flushed .orchestrator, .read .generator 1000, .decode .generator,
    .setUp (.ok ⟨"", "", "", 2, 1⟩), .write .generator 1000, .read .orchestrator 1000,
    .decode .orchestrator, .command .start, .write .orchestrator 3, .flushed .generator,
    .read .generator 3, .write .orchestrator 1000, .flushed .orchestrator, .read .generator 1000,
    .decode .generator, .update .finished, .write .generator 1000]

theorem no_bytes_lost_earlyStart : ∃ connection, machine.Reachable connection ∧
    connection.orchestrator.discarded.length = 1 ∧ connection.generator.discarded.length = 1 ∧
      connection.generator.decoded.length = 2 ∧
        ∀ buffer ∈ connection.orchestrator.discarded ++ connection.generator.discarded,
          buffer = [] := by
  rcases machine.exists_reachable_of_exec (rfl : machine.initial new) earlyStart
    (fun connection => decide (connection.orchestrator.discarded.length = 1 ∧
      connection.generator.discarded.length = 1 ∧ connection.generator.decoded.length = 2))
    (by decide) with ⟨connection, reachable, checked⟩
  rcases of_decide_eq_true checked with ⟨orchestrator, generator, decoded⟩
  exact ⟨connection, reachable, orchestrator, generator, decoded, (no_bytes_lost reachable).1⟩

end EarlyStart

end Connection

end CreoBench
