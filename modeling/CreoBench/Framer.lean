import CreoBench.Library.Framing
import CreoBench.WireCodecs

/-!
# Messages and their frames

A frame is a header of twelve bytes, which ends with the size of the payload, and the
payload.  The encoder writes the header first and patches the size after the payload;
the decoder waits for the whole frame before it reads the payload.
-/

namespace CreoBench

def magicNumber : UInt16 := 0xABCD

def version : UInt8 := 1

/-- `usize::MAX` and `isize::MAX`; no allocation is larger than the latter. -/
def usizeMax : Nat := 2 ^ 64 - 1
def isizeMax : Nat := 2 ^ 63 - 1

inductive HeaderDeError where
  | magicNumberMismatch (magicNumber : UInt16)
  | versionMismatch (version : UInt8)
  | insufficientData (size : Nat)
  deriving DecidableEq

inductive HeaderSeError where
  | maximumPayloadSize (payloadSize : Nat)
  | invalidBufferSize (size : Nat)
  deriving DecidableEq

inductive MessageSerError where
  | header (error : HeaderSeError)
  | payload (error : SerdeError)
  deriving DecidableEq

inductive DecoderError where
  | header (error : HeaderDeError)
  | payload (error : SerdeError)
  | sizeOverflow
  deriving DecidableEq

/-- How `decode` ends without a message although the frame is complete. -/
inductive DecodeStop where
  | error (error : DecoderError)
  | panic
  deriving DecidableEq

structure MessageHeader where
  flags : UInt8
  payloadSize : Nat
  deriving DecidableEq

namespace MessageHeader

def size : Nat := 12

/-- The header before the size of the payload is known. -/
def initHeader : List UInt8 :=
  BigEndian.bytes 2 magicNumber.toNat ++ [version] ++ [0] ++ BigEndian.bytes 8 0

def patchPayloadSize (buf : List UInt8) (payloadSize : Nat) :
    Except HeaderSeError (List UInt8) :=
  if buf.length < size then .error (.invalidBufferSize buf.length)
  else if payloadSize < 2 ^ 64 then
    .ok (buf.take 4 ++ BigEndian.bytes 8 payloadSize ++ buf.drop 12)
  else .error (.maximumPayloadSize payloadSize)

/-- The header in front of `buf`, which has at least `size` bytes. -/
def deserialize (buf : List UInt8) (size : Nat) : Except HeaderDeError MessageHeader :=
  if size < MessageHeader.size then .error (.insufficientData size)
  else
    let magic := UInt16.ofNat (BigEndian.value (buf.take 2))
    if magic ≠ magicNumber then .error (.magicNumberMismatch magic)
    else
      let found := UInt8.ofNat (BigEndian.value ((buf.drop 2).take 1))
      if found ≠ version then .error (.versionMismatch found)
      else .ok
        { flags := UInt8.ofNat (BigEndian.value ((buf.drop 3).take 1))
          payloadSize := BigEndian.value ((buf.drop 4).take 8) }

end MessageHeader

namespace MessageFramer

variable {Mark : Type} {Fatal : Mark → Prop} {Payload : Type}
variable (codec : Codec SerdeError Fatal Payload)

/-- `encode`: its result and the buffer after it. -/
def encode (item : Payload) (dst : List UInt8) :
    Except MessageSerError Unit × List UInt8 :=
  let payload := codec.write item
  match payload.failure with
  | some err => (.error (.payload err), dst ++ MessageHeader.initHeader ++ payload.bytes)
  | none =>
      match MessageHeader.patchPayloadSize MessageHeader.initHeader payload.bytes.length with
      | .error err => (.error (.header err), dst ++ MessageHeader.initHeader ++ payload.bytes)
      | .ok header => (.ok (), dst ++ header ++ payload.bytes)

/-- Whether `reserve` panics because no allocation can be so large. -/
def capacityOverflow (len additional : Nat) : Prop :=
  isizeMax < len + additional

instance (len additional : Nat) : Decidable (capacityOverflow len additional) :=
  inferInstanceAs (Decidable (_ < _))

/-- `decode`: `frame` for `Ok(Some(_))` and `incomplete` for `Ok(None)`. -/
def decode (src : List UInt8) : NextFrame UInt8 Payload DecodeStop :=
  if src.length < MessageHeader.size then
    if capacityOverflow src.length MessageHeader.size then .failed .panic else .incomplete
  else
    match MessageHeader.deserialize src MessageHeader.size with
    | .error err => .failed (.error (.header err))
    | .ok header =>
        let messageSize := MessageHeader.size + header.payloadSize
        if usizeMax < messageSize then .failed (.error .sizeOverflow)
        else if src.length < messageSize then
          if capacityOverflow src.length (messageSize - src.length) then .failed .panic
          else .incomplete
        else
          match codec.read ((src.drop MessageHeader.size).take header.payloadSize) with
          | .done payload _ => .frame payload (src.drop messageSize)
          | .failed err => .failed (.error (.payload err))
          | .panicked => .failed .panic

/-- A decoded message takes at least its header away. -/
theorem decode_shrinks {src rest : List UInt8} {payload : Payload}
    (decoded : decode codec src = .frame payload rest) : rest.length < src.length := by
  unfold decode at decoded
  split_ifs at decoded with short
  split at decoded
  · cases decoded
  · rename_i header headerEq
    dsimp only at decoded
    split_ifs at decoded with overflow incomplete
    split at decoded
    · cases decoded
      have headerSize : MessageHeader.size = 12 := rfl
      rw [List.length_drop]
      omega
    · cases decoded
    · cases decoded

/-- The framer of one direction of a connection. -/
def framer : Framer UInt8 Payload DecodeStop where
  next := decode codec
  shrinks := decode_shrinks codec

end MessageFramer

end CreoBench
