import CreoBench.FramerStream

/-!
# Arbitrary input

What the decoder does with bytes that no encoder wrote.  It panics in exactly two
situations: when it reserves room for a frame that is larger than any allocation, and
when it converts a number of seconds that is no duration.  Of a complete frame it reads
a prefix of the payload and removes the rest of the frame unread.
-/

namespace CreoBench

namespace MessageFramer

/-- The header announces a frame that is not complete and larger than any allocation. -/
def OversizedFrame (src : List UInt8) : Prop :=
  ∃ header, MessageHeader.size ≤ src.length ∧
    MessageHeader.deserialize src MessageHeader.size = .ok header ∧
      src.length < MessageHeader.size + header.payloadSize ∧
        isizeMax < MessageHeader.size + header.payloadSize ∧
          MessageHeader.size + header.payloadSize ≤ usizeMax

/-- The payload of a complete frame in front of the buffer. -/
def completePayload (src : List UInt8) : Option (List UInt8) :=
  if src.length < MessageHeader.size then none
  else
    match MessageHeader.deserialize src MessageHeader.size with
    | .error _ => none
    | .ok header =>
        if src.length < MessageHeader.size + header.payloadSize ∨
            usizeMax < MessageHeader.size + header.payloadSize then none
        else some ((src.drop MessageHeader.size).take header.payloadSize)

variable {Mark : Type} {Fatal : Mark → Prop} {Payload : Type}
variable {codec : Codec SerdeError Fatal Payload}

/-- Either the frame is not complete, and then the payload does not matter, or `decode`
does what reading the payload does. -/
theorem decode_cases (codec : Codec SerdeError Fatal Payload) (src : List UInt8) :
    (completePayload src = none ∧
      (decode codec src = .failed .panic ↔ OversizedFrame src) ∧
        ∀ message rest, decode codec src ≠ .frame message rest) ∨
    ∃ header, MessageHeader.deserialize src MessageHeader.size = .ok header ∧
      MessageHeader.size + header.payloadSize ≤ src.length ∧ ¬ OversizedFrame src ∧
        completePayload src = some ((src.drop MessageHeader.size).take header.payloadSize) ∧
          decode codec src =
            match codec.read ((src.drop MessageHeader.size).take header.payloadSize) with
            | .done payload _ =>
                .frame payload (src.drop (MessageHeader.size + header.payloadSize))
            | .failed err => .failed (.error (.payload err))
            | .panicked => .failed .panic := by
  have maxEq : MessageHeader.size + MessageHeader.size < isizeMax := by decide
  unfold decode completePayload
  by_cases noHeader : src.length < MessageHeader.size
  · rw [if_pos noHeader, if_pos noHeader, if_neg (by rw [capacityOverflow]; omega)]
    refine .inl ⟨rfl, ⟨by simp, ?_⟩, by simp⟩
    rintro ⟨header, enough, -⟩
    omega
  rw [if_neg noHeader, if_neg noHeader]
  cases headerEq : MessageHeader.deserialize src MessageHeader.size with
  | error err =>
      refine .inl ⟨rfl, ⟨by simp, ?_⟩, by simp⟩
      rintro ⟨header, -, found, -⟩
      rw [headerEq] at found
      cases found
  | ok header =>
      have unique : OversizedFrame src ↔ src.length < MessageHeader.size + header.payloadSize ∧
          isizeMax < MessageHeader.size + header.payloadSize ∧
            MessageHeader.size + header.payloadSize ≤ usizeMax := by
        constructor
        · rintro ⟨header', -, found, short, large, small⟩
          rw [headerEq] at found
          cases found
          exact ⟨short, large, small⟩
        · rintro ⟨short, large, small⟩
          exact ⟨header, by omega, headerEq, short, large, small⟩
      dsimp only
      by_cases overflow : usizeMax < MessageHeader.size + header.payloadSize
      · rw [if_pos overflow, if_pos (.inr overflow), unique]
        refine .inl ⟨rfl, ⟨by simp, ?_⟩, by simp⟩
        rintro ⟨-, -, small⟩
        omega
      rw [if_neg overflow]
      by_cases incomplete : src.length < MessageHeader.size + header.payloadSize
      · rw [if_pos incomplete, if_pos (.inl incomplete), unique]
        by_cases large : isizeMax < MessageHeader.size + header.payloadSize
        · rw [if_pos (by rw [capacityOverflow]; omega)]
          exact .inl ⟨rfl, ⟨fun _ => ⟨incomplete, large, by omega⟩, fun _ => rfl⟩, by simp⟩
        · rw [if_neg (by rw [capacityOverflow]; omega)]
          exact .inl ⟨rfl, ⟨by simp, fun oversized => absurd oversized.2.1 large⟩, by simp⟩
      · rw [if_neg incomplete, if_neg (by rintro (short | long) <;> omega)]
        exact .inr ⟨header, rfl, by omega, fun oversized => incomplete (unique.mp oversized).1,
          rfl, rfl⟩

/-- The exact causes of a panic. -/
theorem decode_panics_iff (codec : Codec SerdeError Fatal Payload) (src : List UInt8) :
    decode codec src = .failed .panic ↔
      OversizedFrame src ∨ ∃ payload, completePayload src = some payload ∧
        ∃ mark ∈ (codec.scan payload).marks, Fatal mark := by
  rcases decode_cases codec src with ⟨none, panics, -⟩ | ⟨header, -, -, sized, payloadEq, decodeEq⟩
  · rw [panics, none]
    simp
  · have reads := (codec.explains ((src.drop MessageHeader.size).take
      header.payloadSize)).panicked_iff
    simp only [payloadEq, Option.some.injEq, exists_eq_left', sized, false_or, ← reads, decodeEq]
    cases codec.read ((src.drop MessageHeader.size).take header.payloadSize) <;> simp

end MessageFramer

namespace Protocol

open MessageFramer

/-- The seconds of the relative times in a payload, up to its first malformed field; only
updates have relative times. -/
def relativeTimesIn (protocol : Protocol) (payload : List UInt8) : List Binary64 :=
  match protocol with
  | generatorUpdate => (GeneratorUpdate.codec.scan payload).marks
  | command | configMessage | configResponse => []

/-- Decoding returns for exactly the inputs that neither announce an incomplete frame
larger than any allocation nor hold a complete payload with an unconvertible time. -/
theorem decode_returns_iff (protocol : Protocol) (src : List UInt8) :
    decode protocol.codec src ≠ .failed .panic ↔
      ¬ OversizedFrame src ∧ ∀ payload, completePayload src = some payload →
        ∀ secs ∈ protocol.relativeTimesIn payload, ¬ Unconvertible secs := by
  have noMarks : protocol ≠ .generatorUpdate → ∀ mark : protocol.Mark, ¬ protocol.Fatal mark := by
    intro other mark
    cases protocol with
    | generatorUpdate => exact absurd rfl other
    | _ => exact id
  rw [Ne, decode_panics_iff, not_or]
  refine and_congr_right fun _ => ?_
  constructor
  · intro harmless payload complete secs reached unconvertible
    cases protocol with
    | generatorUpdate => exact harmless ⟨payload, complete, secs, reached, unconvertible⟩
    | _ => cases reached
  · rintro harmless ⟨payload, complete, mark, reached, fatal⟩
    cases protocol with
    | generatorUpdate => exact harmless payload complete mark reached fatal
    | _ => exact fatal

/-- A header that announces `2 ^ 63` bytes. -/
theorem decode_panics_on_large_header :
    ¬ ∀ protocol src, decode (codec protocol) src ≠ .failed .panic := by
  intro returns
  exact returns .command [0xAB, 0xCD, 1, 0, 0x80, 0, 0, 0, 0, 0, 0, 0] (by decide)

/-- The whole announced payload is read as the decoded message. -/
def ConsumesPayload (protocol : Protocol) (src : List UInt8) : Prop :=
  ∀ message rest, decode protocol.codec src = .frame message rest →
    ∃ payload, completePayload src = some payload ∧
      protocol.codec.read payload = .done message []

private def startFrame : List UInt8 :=
  [0xAB, 0xCD, 1, 0, 0, 0, 0, 0, 0, 0, 0, 4, 0, 0, 0, 0]

end Protocol

end CreoBench
