import CreoBench.Library.ByteFormat
import CreoBench.Serde

/-!
# The data model of serde

Types as the derived implementations of serde present them to a format, and how
`BytesSerializer` and `BytesDeserializer` treat the values of each of them.
-/

namespace CreoBench

/-! ## Numbers -/

inductive NumberType where
  | u8 | u16 | u32 | u64
  | i8 | i16 | i32 | i64
  /-- `f32` as its bit pattern. -/
  | f32
  | f64
  deriving DecidableEq

namespace NumberType

abbrev Value : NumberType → Type
  | u8 => UInt8
  | u16 => UInt16
  | u32 => UInt32
  | u64 => UInt64
  | i8 => Int8
  | i16 => Int16
  | i32 => Int32
  | i64 => Int64
  | f32 => UInt32
  | f64 => Binary64

/-- The number of bytes. -/
def width : NumberType → Nat
  | u8 | i8 => 1
  | u16 | i16 => 2
  | u32 | i32 | f32 => 4
  | u64 | i64 | f64 => 8

/-- The bits of a number, of a negative one in two's complement. -/
def bits : (type : NumberType) → type.Value → Nat
  | u8, number => number.toNat
  | u16, number => number.toNat
  | u32, number => number.toNat
  | u64, number => number.toNat
  | i8, number => number.toBitVec.toNat
  | i16, number => number.toBitVec.toNat
  | i32, number => number.toBitVec.toNat
  | i64, number => number.toBitVec.toNat
  | f32, number => number.toNat
  | f64, number => number.bits.toNat

def ofBits : (type : NumberType) → Nat → type.Value
  | u8, bits => .ofNat bits
  | u16, bits => .ofNat bits
  | u32, bits => .ofNat bits
  | u64, bits => .ofNat bits
  | i8, bits => .ofBitVec (.ofNat 8 bits)
  | i16, bits => .ofBitVec (.ofNat 16 bits)
  | i32, bits => .ofBitVec (.ofNat 32 bits)
  | i64, bits => .ofBitVec (.ofNat 64 bits)
  | f32, bits => .ofNat bits
  | f64, bits => ⟨.ofNat bits⟩

theorem bits_lt (type : NumberType) (number : type.Value) :
    type.bits number < 256 ^ type.width := by
  cases type with
  | u8 => exact number.toNat_lt
  | u16 => exact number.toNat_lt
  | u32 | f32 => exact number.toNat_lt
  | u64 => exact number.toNat_lt
  | i8 | i16 | i32 | i64 => exact number.toBitVec.isLt
  | f64 => exact number.bits.toNat_lt

theorem ofBits_bits (type : NumberType) (number : type.Value) :
    type.ofBits (type.bits number) = number := by
  cases type with
  | u8 | u16 | u32 | u64 | f32 => simp [ofBits, bits]
  | i8 | i16 | i32 | i64 => simp [ofBits, bits]
  | f64 => simp [ofBits, bits]

theorem bits_ofBits {type : NumberType} {bits : Nat} (fits : bits < 256 ^ type.width) :
    type.bits (type.ofBits bits) = bits := by
  cases type with
  | u8 => exact UInt8.toNat_ofNat_of_lt' fits
  | u16 => exact UInt16.toNat_ofNat_of_lt' fits
  | u32 | f32 => exact UInt32.toNat_ofNat_of_lt' fits
  | u64 | f64 => exact UInt64.toNat_ofNat_of_lt' fits
  | i8 | i16 | i32 | i64 => exact Nat.mod_eq_of_lt fits

end NumberType

/-! ## Types and values -/

mutual

/-- A type as its derived implementations present it to a format. -/
inductive Shape where
  | bool
  | number (type : NumberType)
  | char
  | string
  | bytes
  | unit
  | unitStruct (name : String)
  | option (inner : Shape)
  | newtypeStruct (name : String) (inner : Shape)
  | tuple (elements : Fields)
  | tupleStruct (name : String) (fields : Fields)
  | struct (name : String) (fields : Fields)
  | seq (element : Shape)
  | map (key value : Shape)
  | enum (name : String) (variants : Variants)

/-- The fields of a struct or a variant; those of tuples are called by their position. -/
inductive Fields where
  | nil
  | cons (key : String) (type : Shape) (rest : Fields)

/-- What a variant holds. -/
inductive Content where
  | unit
  | newtype (inner : Shape)
  | tuple (fields : Fields)
  | struct (fields : Fields)

inductive Variants where
  | nil
  | cons (variant : String) (content : Content) (rest : Variants)

end

mutual

/-- The values of a type. -/
def Shape.Value : Shape → Type
  | .bool => Bool
  | .number type => type.Value
  | .char => Char
  | .string => String
  | .bytes => List UInt8
  | .unit => Unit
  | .unitStruct _ => Unit
  | .option inner => Option inner.Value
  | .newtypeStruct _ inner => inner.Value
  | .tuple elements => elements.Value
  | .tupleStruct _ fields => fields.Value
  | .struct _ fields => fields.Value
  | .seq element => List element.Value
  | .map key value => List (key.Value × value.Value)
  | .enum _ variants => variants.Value

def Fields.Value : Fields → Type
  | .nil => Unit
  | .cons _ type rest => type.Value × rest.Value

def Content.Value : Content → Type
  | .unit => Unit
  | .newtype inner => inner.Value
  | .tuple fields => fields.Value
  | .struct fields => fields.Value

def Variants.Value : Variants → Type
  | .nil => Empty
  | .cons _ content rest => content.Value ⊕ rest.Value

end

/-! ## Writing -/

namespace BytesSerializer

def serializeBool (value : Bool) : Written SerdeError := .ok [if value then 1 else 0]

def serializeChar (char : Char) : Written SerdeError := putNumber 4 char.toNat

def serializeStr (text : String) : Written SerdeError :=
  (putLength "string" (utf8Bytes text).length).append (.ok (utf8Bytes text))

def serializeBytes (bytes : List UInt8) : Written SerdeError :=
  let length :=
    if bytes.length < 2 ^ 64 then putNumber 8 bytes.length
    else ⟨[], some (.custom "bytes len exceeds `18446744073709551615` bytes")⟩
  length.append (.ok bytes)

def putVariantIndex (index : Nat) : Written SerdeError := putNumber 4 index

end BytesSerializer

open BytesSerializer BytesDeserializer

mutual

def Shape.serialize : (shape : Shape) → shape.Value → Written SerdeError
  | .bool, value => serializeBool value
  | .number type, number => putNumber type.width (type.bits number)
  | .char, char => serializeChar char
  | .string, text => serializeStr text
  | .bytes, bytes => serializeBytes bytes
  | .unit, _ => .ok []
  | .unitStruct _, _ => .ok []
  | .option _, none => .ok [0]
  | .option inner, some value => (Written.ok [1]).append (inner.serialize value)
  | .newtypeStruct name inner, value =>
      (inner.serialize value).mapFailure (.context s!"failed to serialize `{name}`")
  | .tuple elements, values => elements.serialize (fun _ => id) values
  | .tupleStruct name fields, values =>
      fields.serialize (fun _ => .context s!"failed to serialize `{name}`") values
  | .struct name fields, values =>
      fields.serialize (fun key => .context s!"failed to serialize `{key}` in `{name}`") values
  | .seq element, values =>
      (putLength "sequence" values.length).append
        (ByteFormat.writeMany (fun value => element.serialize value) values)
  | .map key value, entries =>
      (putLength "map" entries.length).append
        (ByteFormat.writeMany (fun entry =>
          (key.serialize entry.1).append (value.serialize entry.2)) entries)
  | .enum name variants, value => variants.serialize name 0 value

def Fields.serialize (onFailure : String → SerdeError → SerdeError) :
    (fields : Fields) → fields.Value → Written SerdeError
  | .nil, _ => .ok []
  | .cons key type rest, values =>
      ((type.serialize values.1).mapFailure (onFailure key)).append
        (rest.serialize onFailure values.2)

def Content.serialize (name variant : String) (index : Nat) :
    (content : Content) → content.Value → Written SerdeError
  | .unit, _ => putVariantIndex index
  | .newtype inner, value =>
      (putVariantIndex index).append ((inner.serialize value).mapFailure
        (.context s!"failed to serialize `{name}::{variant}`"))
  | .tuple fields, values =>
      (putVariantIndex index).append
        (fields.serialize (fun _ => .context s!"failed serialize `{name}::{variant}`") values)
  | .struct fields, values =>
      (putVariantIndex index).append
        (fields.serialize
          (fun key => .context s!"failed to serialize `{key}` in `{name}::{variant}`") values)

/-- The variants from the one with this index on. -/
def Variants.serialize (name : String) :
    (variants : Variants) → Nat → variants.Value → Written SerdeError
  | .cons variant content _, index, .inl value => content.serialize name variant index value
  | .cons _ _ rest, index, .inr value => rest.serialize name (index + 1) value

end

/-! ## Reading -/

namespace BytesDeserializer

def deserializeBool (input : List UInt8) : Reading SerdeError Bool :=
  (deserializeBoolFromByte input).map id (.context "failed to deserialize bool")

def deserializeChar (input : List UInt8) : Reading SerdeError Char :=
  (tryGet 4 input).andThen fun codepoint rest =>
    if codepoint.isValidChar then .done (.ofNat codepoint) rest
    else
      let hex := String.ofList ((Nat.toDigits 16 codepoint).map Char.toUpper)
      .failed (.custom
        s!"failed to deserialize char: `0x{hex}` is not valid unicode scalar value")

def deserializeByteBuf (input : List UInt8) : Reading SerdeError (List UInt8) :=
  (deserializeAndEnsureLength input).andThen fun len rest =>
    .done (rest.take len) (rest.drop len)

def deserializeString (input : List UInt8) : Reading SerdeError String :=
  (deserializeByteBuf input).andThen fun bytes rest =>
    match stringFromUtf8 bytes with
    | .ok text => .done text rest
    | .error err => .failed err

/-- An index that no variant of the enum has. -/
def invalidVariantIndex (name : String) (count index : Nat) : SerdeError :=
  let last := count - 1
  .custom s!"invalid variant index `{index}` for enum `{name}` (expected `0`..`{last}`)"

end BytesDeserializer

def Variants.count : Variants → Nat
  | .nil => 0
  | .cons _ _ rest => rest.count + 1

mutual

def Shape.deserialize : (shape : Shape) → List UInt8 → Reading SerdeError shape.Value
  | .bool, input => deserializeBool input
  | .number type, input => (tryGet type.width input).map type.ofBits id
  | .char, input => deserializeChar input
  | .string, input => deserializeString input
  | .bytes, input => deserializeByteBuf input
  | .unit, input => .done () input
  | .unitStruct _, input => .done () input
  | .option inner, input =>
      (deserializeBool input).andThen fun isSome rest =>
        if isSome then (inner.deserialize rest).map some id else .done none rest
  | .newtypeStruct name inner, input =>
      (inner.deserialize input).map id (.context s!"failed to deserialize `{name}`")
  | .tuple elements, input => elements.deserialize (fun _ => id) input
  | .tupleStruct name fields, input =>
      fields.deserialize (fun _ => .context s!"failed to deserialize `{name}`") input
  | .struct name fields, input =>
      fields.deserialize
        (fun key => .context s!"failed to deserialize `{key}` in `{name}`") input
  | .seq element, input =>
      (deserializeAndEnsureLength input).andThen
        (ByteFormat.readMany fun rest => element.deserialize rest)
  | .map key value, input =>
      (deserializeAndEnsureLength input).andThen
        (ByteFormat.readMany fun rest => (key.deserialize rest).andThen fun entryKey rest =>
          (value.deserialize rest).map (fun entryValue => (entryKey, entryValue)) id)
  | .enum name variants, input =>
      (tryGet 4 input).andThen fun index rest =>
        variants.deserialize name variants.count index index rest

def Fields.deserialize (onFailure : String → SerdeError → SerdeError) :
    (fields : Fields) → List UInt8 → Reading SerdeError fields.Value
  | .nil, input => .done () input
  | .cons key type rest, input =>
      ((type.deserialize input).map id (onFailure key)).andThen fun value input =>
        (rest.deserialize onFailure input).map (fun values => (value, values)) id

def Content.deserialize (name variant : String) :
    (content : Content) → List UInt8 → Reading SerdeError content.Value
  | .unit, input => .done () input
  | .newtype inner, input =>
      (inner.deserialize input).map id (.context s!"failed to deserialize `{name}::{variant}`")
  | .tuple fields, input =>
      (fields.deserialize (fun _ => id) input).map id
        (.context s!"failed to deserialize `{name}::{variant}`")
  | .struct fields, input =>
      fields.deserialize
        (fun key => .context s!"failed to deserialize `{key}` in `{name}`") input

/-- The variant at a position among these; `count` and `index` are for the enum as a whole. -/
def Variants.deserialize (name : String) (count index : Nat) :
    (variants : Variants) → Nat → List UInt8 → Reading SerdeError variants.Value
  | .nil, _, _ => .failed (invalidVariantIndex name count index)
  | .cons variant content _, 0, input => (content.deserialize name variant input).map .inl id
  | .cons _ _ rest, position + 1, input =>
      (rest.deserialize name count index position input).map .inr id

end

end CreoBench
