import CreoBench.Framer
import CreoBench.WireDelivery

/-!
# The stream of a connection

The frames of several messages are decoded as they were encoded, wherever the stream
between them is cut.  A frame that is not complete yet is told by its length alone:
before twelve bytes are there, nothing is looked at, and after that the header is.
-/

namespace CreoBench

/-- What is sent over a connection in one of its phases and directions. -/
inductive Protocol where
  | command
  | configMessage
  | configResponse
  | generatorUpdate
  deriving DecidableEq

namespace Protocol

abbrev Payload : Protocol → Type
  | command => Command
  | configMessage => ConfigMessage
  | configResponse => ConfigResponse
  | generatorUpdate => GeneratorUpdate

/-- The fields whose content decides about panics: the seconds of relative times. -/
abbrev Mark : Protocol → Type
  | generatorUpdate => Binary64
  | _ => Empty

abbrev Fatal : (protocol : Protocol) → protocol.Mark → Prop
  | generatorUpdate => Unconvertible
  | command | configMessage | configResponse => fun _ => False

def codec : (protocol : Protocol) → Codec SerdeError protocol.Fatal protocol.Payload
  | command => Command.codec
  | configMessage => ConfigMessage.codec
  | configResponse => ConfigResponse.codec
  | generatorUpdate => GeneratorUpdate.codec

/-- A message as it arrives. -/
def received : (protocol : Protocol) → protocol.Payload → protocol.Payload
  | generatorUpdate => GeneratorUpdate.truncateMillis
  | command | configMessage | configResponse => id

/-- The times in a message survive the conversions into numbers that travel. -/
def TimesFit : (protocol : Protocol) → protocol.Payload → Prop
  | generatorUpdate => fun update =>
      (∀ time ∈ update.relativeTimes, time.Returns) ∧ update.MillisFit
  | command | configMessage | configResponse => fun _ => True

theorem delivers (protocol : Protocol) {message : protocol.Payload}
    (fit : protocol.TimesFit message) :
    protocol.codec.Delivers message (protocol.received message) := by
  cases protocol with
  | command => exact Command.delivers message
  | configMessage => exact ConfigMessage.delivers message
  | configResponse => exact ConfigResponse.delivers message
  | generatorUpdate => exact GeneratorUpdate.delivers fit.1 fit.2

/-- Append the frames of messages to a buffer, as long as none fails. -/
def encodeAll (protocol : Protocol) : List protocol.Payload → List UInt8 →
    Except MessageSerError Unit × List UInt8
  | [], dst => (.ok (), dst)
  | message :: messages, dst =>
      match MessageFramer.encode protocol.codec message dst with
      | (.ok (), dst) => protocol.encodeAll messages dst
      | (.error err, dst) => (.error err, dst)

/-- The bytes that `encode` writes for a message, and what arrives of it. -/
def frame (protocol : Protocol) (message : protocol.Payload) : Frame UInt8 protocol.Payload where
  bytes := (MessageFramer.encode protocol.codec message []).2
  value := protocol.received message

end Protocol

namespace MessageFramer

variable {Mark : Type} {Fatal : Mark → Prop} {Payload : Type}
variable {codec : Codec SerdeError Fatal Payload}

/-- The header of a payload of `payloadSize` bytes. -/
def headerBytes (payloadSize : Nat) : List UInt8 :=
  [0xAB, 0xCD, 1, 0] ++ BigEndian.bytes 8 payloadSize

@[simp]
theorem length_headerBytes (payloadSize : Nat) :
    (headerBytes payloadSize).length = MessageHeader.size := by
  simp [headerBytes, MessageHeader.size]

theorem deserialize_headerBytes {payloadSize : Nat} (fits : payloadSize < 2 ^ 64)
    (rest : List UInt8) :
    MessageHeader.deserialize (headerBytes payloadSize ++ rest) MessageHeader.size =
      .ok ⟨0, payloadSize⟩ := by
  have sizeEq : BigEndian.value (BigEndian.bytes 8 payloadSize) = payloadSize := by
    rw [BigEndian.value_bytes]
    exact Nat.mod_eq_of_lt fits
  have sizeBytes : (BigEndian.bytes 8 payloadSize ++ rest).take 8 =
      BigEndian.bytes 8 payloadSize :=
    List.take_left' (BigEndian.length_bytes _ _)
  have fields : MessageHeader.deserialize (headerBytes payloadSize ++ rest) MessageHeader.size =
      .ok ⟨0, BigEndian.value ((BigEndian.bytes 8 payloadSize ++ rest).take 8)⟩ := rfl
  rw [fields, sizeBytes, sizeEq]

/-- A successful encoding appends one frame. -/
theorem encode_ok {item : Payload} {dst dst' : List UInt8}
    (encoded : encode codec item dst = (.ok (), dst')) :
    (codec.write item).failure = none ∧ (codec.write item).bytes.length < 2 ^ 64 ∧
      dst' = dst ++ (headerBytes (codec.write item).bytes.length ++ (codec.write item).bytes) := by
  unfold encode at encoded
  cases failureEq : (codec.write item).failure with
  | some err => simp [failureEq] at encoded
  | none =>
      have longEnough : ¬ MessageHeader.initHeader.length < MessageHeader.size := by decide
      simp only [failureEq, MessageHeader.patchPayloadSize] at encoded
      rw [if_neg longEnough] at encoded
      by_cases fits : (codec.write item).bytes.length < 2 ^ 64
      · rw [if_pos fits] at encoded
        cases encoded
        have nothingAfter : MessageHeader.initHeader.drop 12 = [] := rfl
        rw [nothingAfter, List.append_nil, List.append_assoc]
        exact ⟨rfl, fits, rfl⟩
      · rw [if_neg fits] at encoded
        cases encoded

/-- What the payload of a complete frame decodes to. -/
def payloadFrame (codec : Codec SerdeError Fatal Payload) (payload rest : List UInt8) :
    NextFrame UInt8 Payload DecodeStop :=
  match codec.read payload with
  | .done item _ => .frame item rest
  | .failed err => .failed (.error (.payload err))
  | .panicked => .failed .panic

/-- A frame that is complete. -/
theorem decode_complete {payload : List UInt8} (allocated : 12 + payload.length ≤ isizeMax)
    (rest : List UInt8) :
    decode codec (headerBytes payload.length ++ payload ++ rest) =
      payloadFrame codec payload rest := by
  have headerLength := length_headerBytes payload.length
  have sizeEq : MessageHeader.size = 12 := rfl
  have maxEq : isizeMax < usizeMax ∧ usizeMax < 2 ^ 64 := by decide
  have payloadTaken : (payload ++ rest).take payload.length = payload := List.take_left' rfl
  have frameDropped : (headerBytes payload.length ++ (payload ++ rest)).drop
      (MessageHeader.size + payload.length) = rest := by
    rw [← List.append_assoc, List.drop_left' (by rw [List.length_append, headerLength])]
  rw [List.append_assoc, decode, deserialize_headerBytes (by omega)]
  dsimp only
  rw [if_neg (by rw [List.length_append, headerLength]; omega), if_neg (by omega),
    if_neg (by rw [List.length_append, List.length_append, headerLength]; omega),
    List.drop_left' headerLength, payloadTaken, frameDropped]
  unfold payloadFrame
  cases codec.read payload <;> rfl

/-- The frame of a message that survives its codec. -/
theorem decode_frame {item item' : Payload} (succeeds : (codec.write item).failure = none)
    (delivers : codec.Delivers item item')
    (allocated : 12 + (codec.write item).bytes.length ≤ isizeMax) (rest : List UInt8) :
    decode codec (headerBytes (codec.write item).bytes.length ++ (codec.write item).bytes ++
      rest) = .frame item' rest := by
  have read := codec.roundTrip item succeeds delivers.survives []
  rw [List.append_nil, delivers.seen] at read
  rw [decode_complete allocated, payloadFrame, read]

/-- A frame that is not complete. -/
theorem decode_incomplete {payload input : List UInt8}
    (allocated : 12 + payload.length ≤ isizeMax)
    (isPrefix : input <+: headerBytes payload.length ++ payload)
    (short : input ≠ headerBytes payload.length ++ payload) :
    decode codec input = .incomplete := by
  have headerLength := length_headerBytes payload.length
  have sizeEq : MessageHeader.size = 12 := rfl
  have maxEq : isizeMax < usizeMax ∧ usizeMax < 2 ^ 64 ∧ 24 < isizeMax := by decide
  have shorter : input.length < 12 + payload.length := by
    have bound := isPrefix.length_le
    rw [List.length_append, headerLength] at bound
    refine Nat.lt_of_le_of_ne bound fun same => short (isPrefix.eq_of_length ?_)
    rw [List.length_append, headerLength, same, sizeEq]
  unfold decode
  by_cases noHeader : input.length < MessageHeader.size
  · rw [if_pos noHeader, if_neg (by rw [capacityOverflow]; omega)]
  · -- the header is complete and the same as that of the whole frame
    obtain ⟨tail, rfl⟩ : headerBytes payload.length <+: input :=
      List.prefix_of_prefix_length_le ⟨_, rfl⟩ isPrefix (by rw [headerLength]; omega)
    rw [if_neg noHeader, deserialize_headerBytes (by omega)]
    dsimp only
    rw [if_neg (by omega), if_pos (by rw [sizeEq]; exact shorter),
      if_neg (by rw [capacityOverflow]; omega)]

end MessageFramer

namespace Protocol

open MessageFramer

theorem frame_bytes {protocol : Protocol} {message : protocol.Payload} {dst dst' : List UInt8}
    (encoded : encode protocol.codec message dst = (.ok (), dst')) :
    (protocol.frame message).bytes = headerBytes (protocol.codec.write message).bytes.length ++
      (protocol.codec.write message).bytes := by
  obtain ⟨succeeds, fits, -⟩ := encode_ok encoded
  have longEnough : ¬ MessageHeader.initHeader.length < MessageHeader.size := by decide
  have nothingAfter : MessageHeader.initHeader.drop 12 = [] := rfl
  simp only [frame, encode, succeeds, MessageHeader.patchPayloadSize]
  rw [if_neg longEnough, if_pos fits]
  dsimp only
  rw [nothingAfter, List.append_nil]
  rfl

/-- What all messages together were encoded into. -/
theorem encodeAll_ok {protocol : Protocol} {messages : List protocol.Payload}
    {dst stream : List UInt8} (encoded : protocol.encodeAll messages dst = (.ok (), stream)) :
    stream = dst ++ frameBytes (messages.map protocol.frame) ∧
      ∀ message ∈ messages, (protocol.codec.write message).failure = none ∧
        (protocol.frame message).bytes =
          headerBytes (protocol.codec.write message).bytes.length ++
            (protocol.codec.write message).bytes := by
  induction messages generalizing dst with
  | nil =>
      cases encoded
      exact ⟨by simp [frameBytes], nofun⟩
  | cons message messages ih =>
      unfold encodeAll at encoded
      split at encoded
      · rename_i dst' first
        have bytesEq := frame_bytes first
        obtain ⟨succeeds, -, rfl⟩ := encode_ok first
        obtain ⟨rfl, later⟩ := ih encoded
        refine ⟨?_, ?_⟩
        · rw [List.map_cons, frameBytes, frameBytes, List.flatMap_cons, bytesEq,
            List.append_assoc]
        · intro other member
          rcases List.mem_cons.mp member with rfl | inRest
          · exact ⟨succeeds, bytesEq⟩
          · exact later other inRest
      · cases encoded

/-- However the stream of encoded messages is cut, the messages arrive in order, each with
the chunk that brings its last byte. -/
theorem decode_stream (protocol : Protocol) {messages : List protocol.Payload}
    {stream : List UInt8} (encoded : protocol.encodeAll messages [] = (.ok (), stream))
    (allocated : stream.length ≤ isizeMax)
    (fit : ∀ message ∈ messages, protocol.TimesFit message)
    {chunks : List (List UInt8)} (cut : chunks.flatten = stream) :
    ∃ batches, (framer protocol.codec).feed [] chunks = (batches, .ok []) ∧
      batches.flatten = messages.map protocol.received ∧
        ∀ count, (batches.take count).flatten =
          arrived (messages.map protocol.frame) (chunks.take count).flatten.length := by
  obtain ⟨rfl, written⟩ := encodeAll_ok encoded
  rw [List.nil_append] at allocated cut
  have recognised : ∀ frame ∈ messages.map protocol.frame,
      (framer protocol.codec).Recognises frame := by
    intro frame member
    obtain ⟨message, messageMem, rfl⟩ := List.mem_map.mp member
    obtain ⟨succeeds, bytesEq⟩ := written message messageMem
    have frameFits : 12 + (protocol.codec.write message).bytes.length ≤ isizeMax := by
      have sizeEq : MessageHeader.size = 12 := rfl
      have within := length_le_frameBytes member
      rw [bytesEq, List.length_append, length_headerBytes] at within
      omega
    constructor
    · intro rest
      have decoded := decode_frame succeeds (protocol.delivers (fit message messageMem))
        frameFits rest
      rw [← bytesEq] at decoded
      exact decoded
    · intro input isPrefix short
      rw [bytesEq] at isPrefix short
      have waits : decode protocol.codec input = .incomplete :=
        decode_incomplete frameFits isPrefix short
      exact waits
  have fed := Framer.feed_frames recognised rfl cut
  simpa [List.map_map, Function.comp_def, frame] using fed

/-- A report of a transaction that was dropped after 2.5 ms, and the end. -/
private def lateDropUpdates : List GeneratorUpdate :=
  [.intervalReport
    { targetTime := ⟨Duration.fromSecs 1⟩
      loadLevel := 1
      stats :=
        { IntervalStatistics.default with
          droppedTransactions := 1
          transactionResults := [.dropped ⟨none, ⟨0⟩, ⟨0⟩, ⟨Duration.fromSecs 1⟩⟩ ⟨2500000⟩ .late] }
      finalBatchTime := none },
    .finished]

private theorem lateDropUpdates_timesFit :
    ∀ update ∈ lateDropUpdates, TimesFit .generatorUpdate update := by
  have times : ∀ secs < 2, RelativeLoadTestTime.Returns ⟨Duration.fromSecs secs⟩ :=
    fun secs small => Duration.fromSecsF64_asSecsF64_fromSecs (by omega)
  intro update member
  simp only [lateDropUpdates, List.mem_cons, List.not_mem_nil, or_false] at member
  rcases member with rfl | rfl
  · refine ⟨fun time inUpdate => ?_, fun result inReport => ?_⟩
    · simp only [GeneratorUpdate.relativeTimes, IntervalReport.relativeTimes,
        IntervalReport.results, TransactionResult.relativeTimes, Option.toList_none,
        List.flatMap_singleton, List.cons_append, List.nil_append, List.mem_cons,
        List.not_mem_nil, or_false] at inUpdate
      rcases inUpdate with rfl | rfl | rfl
      · exact times 1 (by decide)
      · exact times 0 (by decide)
      · exact times 1 (by decide)
    · obtain rfl := List.mem_singleton.mp inReport
      change _ < _
      decide
  · exact ⟨by rintro _ ⟨⟩, trivial⟩

/-- The stream is cut within the header of the first frame. -/
theorem decode_stream_cutHeader :
    ∃ stream batches, encodeAll .generatorUpdate lateDropUpdates [] = (.ok (), stream) ∧
      (framer (codec .generatorUpdate)).feed [] [stream.take 5, stream.drop 5] =
        (batches, .ok []) ∧ batches.flatten = lateDropUpdates.map (·.truncateMillis) := by
  obtain ⟨stream, encoded, allocated⟩ : ∃ stream,
      encodeAll .generatorUpdate lateDropUpdates [] = (.ok (), stream) ∧
        stream.length ≤ isizeMax :=
    ⟨_, Prod.ext (by decide +kernel) rfl, by decide +kernel⟩
  obtain ⟨batches, fed, values, -⟩ := decode_stream .generatorUpdate encoded allocated
    lateDropUpdates_timesFit
    (show [stream.take 5, stream.drop 5].flatten = stream by simp)
  exact ⟨stream, batches, encoded, fed, values⟩

end Protocol

end CreoBench
